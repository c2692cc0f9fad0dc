/-
  Announcing the results of a run: the summary is printed and logged.

  * `RunResult.report` prints the summary, logs it and gives it back;
  * `RunResult.run_report`: it does nothing else.
-/
import RateIsolation.Report
import RateIsolation.Session

namespace RateIsolation.RunResult

/-- The logger of this module. -/
def reportLogger : String := "ratecheck.reporter"

/-- What is printed: the printed summary and a line end. -/
def reportText (r : RunResult) : String := r.summaryText ++ "\n"

variable {σ : Type}

/-- Print the summary, log it and give it back. -/
def report (r : RunResult) : Harness σ Json := do
  Harness.print r.reportText
  Harness.log reportLogger .info "rate_limit_summary" r.summaryFields
  return r.summary

/-- A report gives the summary, and changes only what was printed and what is in the log. -/
theorem run_report (r : RunResult) (s : Session σ) :
    ∃ entries, (r.report : Harness σ Json).run.run s =
      (.ok r.summary, { s with printed := s.printed ++ r.reportText, entries := entries }) := by
  cases hlogged : s.logging.enabled reportLogger .info with
  | true =>
    refine ⟨s.entries ++ [.record (logRecord s.logging.stamp s.context reportLogger .info
      "rate_limit_summary" r.summaryFields)], ?_⟩
    show (_, if s.logging.enabled reportLogger .info = true then _ else _) = _
    rw [hlogged]
    rfl
  | false =>
    refine ⟨s.entries, ?_⟩
    show (_, if s.logging.enabled reportLogger .info = true then _ else _) = _
    rw [hlogged]
    rfl

end RateIsolation.RunResult
