/-
  The metrics of the harness: counters with labels and one gauge.

  A counter is a table from its label values to a count, in the order in
  which the label values were first used; the time of that first use is not kept.
  The gauge keeps its last value.

  * `recordRequest`, `recordCheck`, `recordError` and `recordAlignment` are
    the four ways to write, gathered in `Recording` so that a history of calls
    is a list (`recordAll`);
  * `sample?` reads a sample by name and label set.
-/
import RateIsolation.Number.Binary64
import RateIsolation.Table

namespace RateIsolation

/-- The labels of a counted request. -/
structure RequestLabels where
  target : String
  identity : String
  outcome : String
deriving DecidableEq, Repr

/-- The labels of a counted check. -/
structure CheckLabels where
  check : String
  result : String
deriving DecidableEq, Repr

/-- The metrics of one or more runs. -/
structure Metrics where
  /-- The name in the information sample. -/
  service : String := "ratecheck"
  /-- Requests by target, identity and outcome. -/
  requests : Table RequestLabels Nat := []
  /-- Check evaluations by label and result. -/
  checks : Table CheckLabels Nat := []
  /-- The last wait before a window, in seconds. -/
  waitSeconds : Binary64 := .finite false 0
  /-- Fatal errors by code. -/
  errors : Table String Nat := []
deriving DecidableEq, Repr

/-- One call that writes a metric. -/
inductive Recording where
  /-- A request ended with an outcome. -/
  | request (target identity outcome : String)
  /-- A check was evaluated. -/
  | check (label : String) (passed : Bool)
  /-- A wait for a window. -/
  | alignment (seconds : Binary64)
  /-- A fatal error. -/
  | error (code : String)
deriving DecidableEq, Repr

namespace Metrics

/-- The version in the information sample. -/
def version : String := "1.0.0"

/-- The label value of a check result. -/
def resultName (passed : Bool) : String := if passed then "pass" else "fail"

/-- Count a request. -/
def recordRequest (target identity outcome : String) (m : Metrics) : Metrics :=
  { m with requests := Table.increment ⟨target, identity, outcome⟩ m.requests }

/-- Count a check. -/
def recordCheck (label : String) (passed : Bool) (m : Metrics) : Metrics :=
  { m with checks := Table.increment ⟨label, resultName passed⟩ m.checks }

/-- Keep a wait. -/
def recordAlignment (seconds : Binary64) (m : Metrics) : Metrics := { m with waitSeconds := seconds }

/-- Count a fatal error. -/
def recordError (code : String) (m : Metrics) : Metrics :=
  { m with errors := Table.increment code m.errors }

/-- One call. -/
def record (m : Metrics) : Recording → Metrics
  | .request target identity outcome => m.recordRequest target identity outcome
  | .check label passed => m.recordCheck label passed
  | .alignment seconds => m.recordAlignment seconds
  | .error code => m.recordError code

/-- A history of calls. -/
def recordAll (m : Metrics) (calls : List Recording) : Metrics := calls.foldl record m

/-! ## Samples -/

/-- A sample: its labels by name, and its value. -/
structure Sample where
  labels : List (String × String)
  value : Binary64
deriving DecidableEq, Repr

/-- The samples of one name. -/
structure Family where
  /-- The name of the samples. -/
  name : String
  /-- One line about what they mean. -/
  help : String
  /-- Whether they only grow. -/
  counter : Bool
  samples : List Sample
deriving DecidableEq, Repr

/-- A count as a number. -/
def countValue (n : Nat) : Binary64 := .ofRatio false n 1

/-- All families, labels sorted by name. -/
def families (m : Metrics) : List Family := [
  { name := "ratecheck_service_info", help := "Harness information", counter := false,
    samples := [⟨[("service", m.service), ("version", version)], countValue 1⟩] },
  { name := "ratecheck_requests_total",
    help := "Requests sent to the gateway, by classified outcome", counter := true,
    samples := m.requests.map fun (l, n) =>
      ⟨[("identity", l.identity), ("outcome", l.outcome), ("target", l.target)], countValue n⟩ },
  { name := "ratecheck_checks_total", help := "Isolation check evaluations", counter := true,
    samples := m.checks.map fun (l, n) =>
      ⟨[("check", l.check), ("result", l.result)], countValue n⟩ },
  { name := "ratecheck_alignment_wait_seconds",
    help := "Most recent wait before a window boundary", counter := false,
    samples := [⟨[], m.waitSeconds⟩] },
  { name := "ratecheck_errors_total", help := "Fatal harness errors", counter := true,
    samples := m.errors.map fun (code, n) => ⟨[("error_type", code)], countValue n⟩ }]

/-- Whether two lists of labels with distinct names say the same. -/
def sameLabels (asked labels : List (String × String)) : Bool :=
  asked.length == labels.length && labels.all fun (k, v) => Table.get? k asked == some v

/-- The value of the sample with that name and exactly those labels. -/
def sample? (m : Metrics) (name : String) (labels : List (String × String)) : Option Binary64 :=
  match m.families.find? fun f => f.name == name with
  | none => none
  | some f => (f.samples.find? fun s => sameLabels labels s.labels).map Sample.value

end Metrics

end RateIsolation
