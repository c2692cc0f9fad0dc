/-
  One run of the experiment.

  A run is strictly linear: log in caller A and caller B; wait for a window,
  spend the users quota of caller A and probe orders with the same caller;
  wait for a window, spend the users quota of caller A again and probe users
  with caller B; evaluate the checks. A failed login ends the run, and
  nothing is sent twice.

  * `Scenario` holds what a run needs, `Scenario.ofSettings` takes it from the
    settings;
  * `Scenario.experiments` are the steps that talk to the outside,
    `Scenario.run` the whole run with its log and metrics.
-/
import RateIsolation.Alignment
import RateIsolation.Login
import RateIsolation.Report
import RateIsolation.Settings.Basic
import RateIsolation.Traffic

namespace RateIsolation

/-- What a run needs. -/
structure Scenario where
  /-- The base address, as the log tells it. -/
  apiBaseUrl : String
  burstRequests : Int
  callerA : Identity
  callerB : Identity
  users : Target
  orders : Target
  aligner : Aligner
  auth : LoginService
  gateway : GatewayClient
deriving Repr

/-- What the experiments found, before the checks. -/
structure Findings where
  alignmentA : Alignment
  usersBurst : Tally
  ordersProbe : Probe
  alignmentB : Alignment
  tokenABurst : Tally
  tokenBProbe : Probe
deriving DecidableEq, Repr

namespace Scenario

/-- The logger of this module. -/
def logger : String := "ratecheck.scenario"

/-- The run that settings describe. -/
def ofSettings (s : Settings) (aligner : Aligner) : Scenario where
  apiBaseUrl := s.apiBaseUrl
  burstRequests := s.burstRequests
  callerA := ⟨s.username, s.password, "a"⟩
  callerB := ⟨s.identityBUsername, s.identityBPassword, "b"⟩
  users := ⟨"users", s.apiBaseUrl, s.usersPath⟩
  orders := ⟨"orders", s.apiBaseUrl, s.ordersPath⟩
  aligner := aligner
  auth := .ofAddress s.authBaseUrl (.binary s.requestTimeout) true
  gateway := ⟨.binary s.requestTimeout⟩

variable {σ : Type}

/-- Wait for a window, and tell the metrics and the log. -/
def alignWindow (w : World σ) (a : Aligner) : Harness σ Alignment := do
  let alignment ← a.align w
  match alignment.waitSeconds with
  | none => throw .secondsOverflow
  | some seconds => Harness.record (.alignment seconds)
  Harness.log logger .info "Aligned to window start" [("wait_ms", .int alignment.wait)]
  return alignment

/-- The steps that talk to the outside. -/
def experiments (w : World σ) (s : Scenario) : Harness σ Findings := do
  Harness.setPhase (some "login")
  let tokenA ← s.auth.acquire w s.callerA
  let tokenB ← s.auth.acquire w s.callerB
  -- the same caller, different services, the same window
  Harness.setPhase (some "experiment_a")
  let alignmentA ← alignWindow w s.aligner
  let usersBurst ← s.gateway.burst w s.users tokenA s.burstRequests
  let ordersProbe ← s.gateway.probe w s.orders tokenA
  -- the same service, different callers, the same window
  Harness.setPhase (some "experiment_b")
  let alignmentB ← alignWindow w s.aligner
  let tokenABurst ← s.gateway.burst w s.users tokenA s.burstRequests
  let tokenBProbe ← s.gateway.probe w s.users tokenB
  return { alignmentA, usersBurst, ordersProbe, alignmentB, tokenABurst, tokenBProbe }

/-- Tell the log and the metrics why the experiments ended early. -/
def reportAbort : Fault → Harness σ Unit
  | .harness e => do
    Harness.log logger .error "Scenario aborted"
      [("error_code", .text e.code), ("error", .text e.message)]
    Harness.record (.error e.code)
  | _ => pure ()

/-- Do an action; a fault is reported in the phase in which it arose, and the phase is unset. -/
def guarded {α : Type} (action : Harness σ α) : Harness σ α :=
  Harness.ensuring (tryCatch action fun fault => do reportAbort fault; throw fault)
    (Harness.setPhase none)

/-- Tell the metrics and the log the result of a check. -/
def reportCheck (c : Check) : Harness σ Unit := do
  Harness.record (.check c.label c.passed)
  Harness.log logger (if c.passed then .info else .warning) "Check evaluated"
    [("check", .text c.label), ("passed", .bool c.passed)]

/-- Evaluate the checks on what the experiments found. -/
def conclude (runId : String) (f : Findings) : Harness σ RunResult := do
  Harness.setPhase (some "checks")
  let checks := Check.evaluate f.usersBurst f.ordersProbe f.tokenABurst f.tokenBProbe
  checks.forM reportCheck
  Harness.setPhase none
  return {
    usersBurst := f.usersBurst
    ordersProbe := f.ordersProbe
    tokenABurst := f.tokenABurst
    tokenBProbe := f.tokenBProbe
    checks := checks
    alignments := [f.alignmentA, f.alignmentB]
    runId := some runId }

/-- A whole run under a given id or a new one. -/
def run (w : World σ) (s : Scenario) (runId : Option String) : Harness σ RunResult := do
  let id ← Harness.beginRun w runId
  Harness.log logger .info "Scenario started"
    [("burst_requests", .int s.burstRequests), ("window_ms", .int s.aligner.window),
      ("api_base_url", .text s.apiBaseUrl)]
  conclude id (← guarded (s.experiments w))

end Scenario

/-- Run the experiment once with settings, on a connection that is open or on one of its own. -/
def runScenario {σ : Type} (w : World σ) (settings : Settings) (shared : Bool)
    (runId : Option String) : Harness σ RunResult := do
  let aligner ← Harness.ofExcept (fun f => .harness (ParameterFault.error f))
    (Aligner.make settings.windowMs settings.alignMarginMs)
  if !shared then Harness.openConnection (.binary settings.requestTimeout)
  (Scenario.ofSettings settings aligner).run w runId

end RateIsolation
