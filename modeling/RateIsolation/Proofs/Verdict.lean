/-
  The verdict in terms of the statuses that were received.

  * `Tally.ofStatuses` counts statuses; a class is counted exactly where a
    status of it was received;
  * `Findings.passed_result` and `Findings.failedChecks_result`: which checks
    of a run pass, read off the counts and the two probes.
-/
import RateIsolation.Scenario

namespace RateIsolation

/-! ## Counts -/

theorem Outcome.ofStatus_eq_allowed {s : Option Int} :
    Outcome.ofStatus s = .allowed ↔ s = some 200 := by
  unfold Outcome.ofStatus
  split <;> simp_all

theorem Outcome.ofStatus_eq_throttled {s : Option Int} :
    Outcome.ofStatus s = .throttled ↔ s = some 429 := by
  unfold Outcome.ofStatus
  split <;> simp_all

namespace Tally

/-- The counts of statuses, none where no answer came. -/
def ofStatuses (ss : List (Option Int)) : Tally := ofOutcomes (ss.map Outcome.ofStatus)

/-- A class that is that of one status only is counted where that status was received. -/
theorem count_ofStatus_pos {o : Outcome} {v : Option Int} (ho : ∀ s, Outcome.ofStatus s = o ↔ s = v)
    (ss : List (Option Int)) : 0 < ((ss.map Outcome.ofStatus).count o : Int) ↔ v ∈ ss := by
  rw [Int.natCast_pos, List.count_pos_iff, List.mem_map]
  constructor
  · rintro ⟨s, hs, h⟩
    rw [ho] at h
    exact h ▸ hs
  · intro hv
    exact ⟨v, hv, (ho v).2 rfl⟩

theorem allowed_ofStatuses_pos {ss : List (Option Int)} :
    0 < (ofStatuses ss).allowed ↔ some 200 ∈ ss :=
  count_ofStatus_pos (fun _ => Outcome.ofStatus_eq_allowed) ss

theorem throttled_ofStatuses_pos {ss : List (Option Int)} :
    0 < (ofStatuses ss).throttled ↔ some 429 ∈ ss :=
  count_ofStatus_pos (fun _ => Outcome.ofStatus_eq_throttled) ss

end Tally

/-! ## Checks -/

namespace Findings

/-- The results of a run, from what its experiments found. -/
def result (f : Findings) (runId : String) : RunResult where
  usersBurst := f.usersBurst
  ordersProbe := f.ordersProbe
  tokenABurst := f.tokenABurst
  tokenBProbe := f.tokenBProbe
  checks := Check.evaluate f.usersBurst f.ordersProbe f.tokenABurst f.tokenBProbe
  alignments := [f.alignmentA, f.alignmentB]
  runId := some runId

variable (f : Findings) (runId : String)

theorem passed_result :
    (f.result runId).passed = true ↔
      0 < f.usersBurst.throttled ∧ 0 < f.usersBurst.allowed ∧ f.ordersProbe.status ≠ some 429 ∧
        0 < f.tokenABurst.throttled ∧ f.tokenBProbe.status = some 200 := by
  simp [RunResult.passed, result, Check.evaluate]

/-- The checks that fail, in order. -/
theorem failedChecks_result :
    (f.result runId).failedChecks =
      (if 0 < f.usersBurst.throttled then [] else [Check.a1]) ++
      (if 0 < f.usersBurst.allowed then [] else [Check.a2]) ++
      (if f.ordersProbe.status ≠ some 429 then [] else [Check.a3]) ++
      (if 0 < f.tokenABurst.throttled then [] else [Check.b1]) ++
      (if f.tokenBProbe.status = some 200 then [] else [Check.b2]) := by
  simp only [RunResult.failedChecks, result, Check.evaluate, List.filter_cons, List.filter_nil]
  by_cases h₁ : 0 < f.usersBurst.throttled <;> by_cases h₂ : 0 < f.usersBurst.allowed <;>
    by_cases h₃ : f.ordersProbe.status ≠ some 429 <;>
    by_cases h₄ : 0 < f.tokenABurst.throttled <;>
    by_cases h₅ : f.tokenBProbe.status = some 200 <;> simp [h₁, h₂, h₃, h₄, h₅]

end Findings

end RateIsolation
