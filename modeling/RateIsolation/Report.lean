/-
  The results of a run and their summary.

  * `RunResult` is everything that one run found; it passed if it has checks
    and all of them passed;
  * `RunResult.summary` is the record that dashboards read, `summaryText` its
    printed form, `exitCode` and `failure?` the verdict;
  * `passed_iff_exitCode` and `failure?_eq_none_iff`: the three agree.
-/
import RateIsolation.Check
import RateIsolation.Json.Printer
import RateIsolation.Window

namespace RateIsolation

/-- Everything that one run found. -/
structure RunResult where
  usersBurst : Tally
  ordersProbe : Probe
  tokenABurst : Tally
  tokenBProbe : Probe
  checks : List Check := []
  alignments : List Alignment := []
  runId : Option String := none
deriving DecidableEq, Repr

/-- The exit status when every check passed. -/
def exitOk : Int := 0

/-- The exit status when a check failed. -/
def exitChecksFailed : Int := 1

/-- The exit status when no verdict was reached. -/
def exitFatal : Int := 2

/-- The exit status of an interrupted run. -/
def exitInterrupted : Int := 130

namespace RunResult

/-- Whether there are checks and all passed. -/
def passed (r : RunResult) : Bool := !r.checks.isEmpty && r.checks.all Check.passed

/-- The labels of the checks that failed. -/
def failedChecks (r : RunResult) : List String :=
  (r.checks.filter fun c => !c.passed).map Check.label

/-- The results of the checks by label; of two checks with one label the later counts. -/
def checkTable (r : RunResult) : Table String Bool :=
  Table.ofList (r.checks.map fun c => (c.label, c.passed))

/-- The status of a probe as a value. -/
def statusJson : Option Int → Json := .ofOption .int

/-- The fields of the summary. -/
def summaryFields (r : RunResult) : List (String × Json) := [
  ("run_id", .ofOption .text r.runId),
  ("users_burst", r.usersBurst.toJson),
  ("orders_after_users_burst_status", statusJson r.ordersProbe.status),
  ("token_a_users_burst", r.tokenABurst.toJson),
  ("token_b_users_probe_status", statusJson r.tokenBProbe.status),
  ("alignment_wait_ms", .arr (r.alignments.map fun a => .int a.wait)),
  ("checks", .record (r.checkTable.map fun (label, passed) => (label, .bool passed))),
  ("passed", .bool r.passed)]

/-- The summary of a run. -/
def summary (r : RunResult) : Json := .record r.summaryFields

/-- The printed summary without a line break at its end. -/
def summaryText (r : RunResult) : String := r.summary.render Json.indented

/-- The exit status that the checks give. -/
def exitCode (r : RunResult) : Int := if r.passed then exitOk else exitChecksFailed

/-- The failure that a run with failed checks ends in. -/
def failure? (r : RunResult) : Option HarnessError :=
  if r.passed then none else some (.checksFailed r.failedChecks r.summary)

theorem passed_iff_exitCode (r : RunResult) : r.passed = true ↔ r.exitCode = exitOk := by
  cases h : r.passed <;> simp [exitCode, h, exitOk, exitChecksFailed]

theorem failure?_eq_none_iff (r : RunResult) : r.failure? = none ↔ r.passed = true := by
  cases h : r.passed <;> simp [failure?, h]

end RunResult

end RateIsolation
