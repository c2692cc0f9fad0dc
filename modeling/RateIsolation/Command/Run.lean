/-
  The command: one run of the experiment, its report, and an exit status.

  The status is 0 when every check passed, 1 when one failed, 2 when there
  was no verdict and 130 when the run was interrupted. The metrics are
  written on every way out of a run, the summary only after a verdict.

  * `Command.configure` reads the settings, `Command.execute` runs with them;
  * `Command.run` is the whole command.
-/
import RateIsolation.Command.Options
import RateIsolation.Metrics.Exposition
import RateIsolation.PathName
import RateIsolation.Reporter
import RateIsolation.Scenario
import RateIsolation.Settings.Report

namespace RateIsolation

/-- What a command is given besides its words. -/
structure Surroundings where
  /-- The environment. -/
  environment : List (String × String) := []
  /-- The text of the settings file, if there is one. -/
  settingsFile : Option String := none

/-- How a command ended. -/
inductive CommandEnd where
  /-- Its words ended it: help, or a line that was refused. -/
  | stopped (status : Int)
  /-- It came to its end. -/
  | finished (status : Int)
deriving DecidableEq, Repr

namespace Command

/-- The logger of this module. -/
def logger : String := "ratecheck.main"

/-- The service that logs. -/
def service : String := "ratecheck"

/-- The settings that options override. -/
def overrides (o : CommandOptions) : Table String Json := [
  ("api_base_url", .ofOption .text o.apiUrl), ("auth_base_url", .ofOption .text o.authUrl),
  ("burst_requests", .ofOption .int o.burst), ("log_level", .ofOption .text o.logLevel)]

variable {σ : Type}

/-- Read the settings; lines of the settings file that cannot be read are told. -/
def configure (s : Surroundings) (o : CommandOptions) : Harness σ (Checked Settings) := do
  let statements := EnvFile.parse (s.settingsFile.getD "")
  (EnvFile.skippedLines statements).forM fun line =>
    Harness.notice ("python-dotenv could not parse statement starting at line " ++ toString line)
  return Settings.ofCommand (overrides o) s.environment (EnvFile.assignments statements)

/-- Tell that settings were refused. -/
def refuse (faults : List SettingFault) : Harness σ CommandEnd := do
  Harness.notice ("[ratecheck] invalid configuration: " ++
    "\n".intercalate (SettingFault.report faults))
  return .finished exitFatal

/-- Set up the log and empty metrics. -/
def prepare (settings : Settings) : Harness σ Unit :=
  modify fun s => { s with
    -- the level was checked with the other settings
    logging := (LogSettings.ofNames service settings.logLevel).toOption.getD s.logging
    metrics := some {} }

/-- Tell the log and the user why a run failed. -/
def tellFailure (runId : String) (e : HarnessError) : Harness σ Unit := do
  Harness.log logger .error "Run failed" (e.response (some runId))
  Harness.notice ("[ratecheck] " ++ e.message)

/-- The status of a run that ended early, unless its fault is let pass. -/
def statusOfFault (runId : String) : Fault → Harness σ Int
  | .send (.interrupted _) => pure exitInterrupted
  | .harness e => do
    tellFailure runId e
    return exitFatal
  | other => throw other

/-- Write the metrics to their file, if one was named. -/
def writeMetrics (w : World σ) (path : Option String) : Harness σ Unit := do
  match path, (← get).metrics with
  | some path, some metrics => Harness.replaceFile w (PathName.normal path) metrics.exposition
  | _, _ => pure ()

/-- Run once: the results, or a status without a verdict. -/
def attempt (w : World σ) (settings : Settings) (o : CommandOptions) (runId : String) :
    Harness σ (Except Int RunResult) :=
  Harness.ensuring
    (tryCatch (Except.ok <$> runScenario w settings false (some runId))
      fun fault => Except.error <$> statusOfFault runId fault)
    (writeMetrics w o.metricsFile)

/-- Report the results, and give the status of the verdict. -/
def announce (w : World σ) (o : CommandOptions) (runId : String) (r : RunResult) :
    Harness σ Int := do
  let summary ← r.report
  match o.output with
  | some path => Harness.writeFile w (PathName.normal path) (summary.render Json.indented)
  | none => pure ()
  match r.failure? with
  | some e =>
    tellFailure runId e
    return exitChecksFailed
  | none =>
    Harness.log logger .info "Run finished" [("passed", .bool r.passed), ("exit_code", .int exitOk)]
    return exitOk

/-- Run with settings. -/
def execute (w : World σ) (settings : Settings) (o : CommandOptions) : Harness σ CommandEnd := do
  prepare settings
  let runId ← Harness.beginRun w none
  let body : Harness σ CommandEnd := do
    match ← attempt w settings o runId with
    | .error status => return .finished status
    | .ok r => return .finished (← announce w o runId r)
  Harness.ensuring body Harness.clearContext

/-- The whole command. -/
def run (w : World σ) (s : Surroundings) (words : List String) : Harness σ CommandEnd := do
  match CommandLine.read words with
  | .error fault =>
    Harness.notice ("\n".intercalate CommandLine.usageLines ++ "\nratecheck: error: " ++
      fault.message)
    return .stopped exitFatal
  | .ok .help =>
    Harness.print (CommandLine.textOf CommandLine.helpLines)
    return .stopped exitOk
  | .ok (.run o) =>
    match ← configure s o with
    | .error faults => refuse faults
    | .ok settings => execute w settings o

end Command

end RateIsolation
