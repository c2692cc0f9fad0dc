/-
  What calls that write metrics add to them.

  * `Table.get?_tally` and `Table.sum_tally`: a table that counts the keys of a list;
  * `Metrics.table_recordAll`: each counter counts the keys of the calls
    (`requests_recordAll`, `checks_recordAll`, `errors_recordAll`);
  * `Metrics.requestCount`, `checkCount` and `errorTotal` read the counters;
  * `requestCount_recordAll`, `checkCount_recordAll`, `errorTotal_recordAll` and
    `waitSeconds_recordAll`: what a list of calls adds to each of them, and what
    the gauge shows after it.
-/
import Mathlib.Algebra.GroupWithZero.Nat
import RateIsolation.Check
import RateIsolation.Metrics.Basic
import RateIsolation.Outcome

namespace RateIsolation

/-! ## Tables that count -/

namespace Table

variable {κ : Type} [DecidableEq κ]

/-- The counts after one more of each key in a list. -/
def tally (ks : List κ) (t : Table κ Nat) : Table κ Nat := ks.foldl (fun t k => increment k t) t

theorem get?_tally (ks : List κ) (t : Table κ Nat) (k : κ) :
    get? k (tally ks t) =
      if ks.count k = 0 then get? k t else some ((get? k t).getD 0 + ks.count k) := by
  induction ks generalizing t with
  | nil => rfl
  | cons j ks ih =>
    rw [tally, List.foldl_cons, ← tally, ih, increment, get?_set, List.count_cons]
    by_cases h : k = j
    · subst h
      by_cases hks : ks.count k = 0
      · simp [hks]
      · simp only [hks, if_false, beq_self_eq_true, if_true, Option.getD_some,
          Nat.add_one_ne_zero, Option.some.injEq]
        omega
    · simp [h, Ne.symm h]

theorem getD_get?_tally (ks : List κ) (t : Table κ Nat) (k : κ) :
    (get? k (tally ks t)).getD 0 = (get? k t).getD 0 + ks.count k := by
  rw [get?_tally]
  by_cases h : ks.count k = 0 <;> simp [h]

theorem sum_increment (k : κ) (t : Table κ Nat) :
    ((increment k t).map Prod.snd).sum = (t.map Prod.snd).sum + 1 := by
  have hset (v : Nat) : (get? k t).getD 0 < v →
      ((set k v t).map Prod.snd).sum + (get? k t).getD 0 = (t.map Prod.snd).sum + v := by
    intro _
    induction t with
    | nil => simp [set]
    | cons e t ih =>
      by_cases h : e.1 = k
      · simp [set, get?, h]
        omega
      · simp only [set, get?, h, if_false, List.map_cons, List.sum_cons] at *
        omega
  have := hset ((get? k t).getD 0 + 1) (by omega)
  unfold increment
  omega

theorem sum_tally (ks : List κ) (t : Table κ Nat) :
    ((tally ks t).map Prod.snd).sum = (t.map Prod.snd).sum + ks.length := by
  induction ks generalizing t with
  | nil => rfl
  | cons k ks ih =>
    rw [tally, List.foldl_cons, ← tally, ih, sum_increment, List.length_cons]
    omega

end Table

namespace Recording

/-- What a counted request is counted under. -/
def requestLabels? : Recording → Option RequestLabels
  | request target identity outcome => some ⟨target, identity, outcome⟩
  | _ => none

/-- What a counted check is counted under. -/
def checkLabels? : Recording → Option CheckLabels
  | check label passed => some ⟨label, Metrics.resultName passed⟩
  | _ => none

/-- What a counted error is counted under. -/
def errorCode? : Recording → Option String
  | error code => some code
  | _ => none

/-- Whether the call counts a fatal error. -/
def isError : Recording → Bool
  | error _ => true
  | _ => false

/-- The wait that the call keeps, if it is one that does. -/
def seconds? : Recording → Option Binary64
  | alignment seconds => some seconds
  | _ => none

end Recording

namespace Metrics

/-! ## The counters -/

/-- A table to which each call adds one under its key, if it has one, counts the keys of the
    calls. -/
theorem table_recordAll {κ : Type} [DecidableEq κ] {table : Metrics → Table κ Nat}
    {key? : Recording → Option κ}
    (h : ∀ m call, table (m.record call) = Table.tally (key? call).toList (table m)) (m : Metrics)
    (calls : List Recording) :
    table (m.recordAll calls) = Table.tally (calls.filterMap key?) (table m) := by
  induction calls generalizing m with
  | nil => rfl
  | cons call calls ih =>
    rw [recordAll, List.foldl_cons, ← recordAll, ih, h, List.filterMap_cons]
    cases key? call <;> rfl

/-- The count of requests for a target under an identity with an outcome. -/
def requestCount (m : Metrics) (target identity : String) (o : Outcome) : Nat :=
  (Table.get? ⟨target, identity, o.name⟩ m.requests).getD 0

/-- The count of a check with a result. -/
def checkCount (m : Metrics) (c : Check) : Nat :=
  (Table.get? ⟨c.label, resultName c.passed⟩ m.checks).getD 0

/-- The count of fatal errors over all codes. -/
def errorTotal (m : Metrics) : Nat := (m.errors.map Prod.snd).sum

theorem resultName_inj {p q : Bool} : resultName p = resultName q ↔ p = q := by
  cases p <;> cases q <;> decide

variable (m : Metrics) (calls : List Recording)

theorem requests_recordAll :
    (m.recordAll calls).requests =
      Table.tally (calls.filterMap Recording.requestLabels?) m.requests :=
  table_recordAll (fun m call => by cases call <;> rfl) m calls

theorem checks_recordAll :
    (m.recordAll calls).checks = Table.tally (calls.filterMap Recording.checkLabels?) m.checks :=
  table_recordAll (fun m call => by cases call <;> rfl) m calls

theorem errors_recordAll :
    (m.recordAll calls).errors = Table.tally (calls.filterMap Recording.errorCode?) m.errors :=
  table_recordAll (fun m call => by cases call <;> rfl) m calls

/-- Each request is counted once, at its labels. -/
theorem requestCount_recordAll (target identity : String) (o : Outcome) :
    (m.recordAll calls).requestCount target identity o =
      m.requestCount target identity o + calls.count (.request target identity o.name) := by
  have hkey (call : Recording) : call.requestLabels? = some ⟨target, identity, o.name⟩ ↔
      call = .request target identity o.name := by
    cases call <;> simp [Recording.requestLabels?]
  rw [requestCount, requests_recordAll, Table.getD_get?_tally, List.count_filterMap,
    List.count_eq_countP, requestCount]
  simp only [hkey, beq_eq_decide]

/-- Each evaluation of a check is counted once, at its result. -/
theorem checkCount_recordAll (c : Check) :
    (m.recordAll calls).checkCount c = m.checkCount c + calls.count (.check c.label c.passed) := by
  have hkey (call : Recording) : call.checkLabels? = some ⟨c.label, resultName c.passed⟩ ↔
      call = .check c.label c.passed := by
    cases call <;> simp [Recording.checkLabels?, resultName_inj]
  rw [checkCount, checks_recordAll, Table.getD_get?_tally, List.count_filterMap,
    List.count_eq_countP, checkCount]
  simp only [hkey, beq_eq_decide]

/-- Each fatal error is counted once, at some code. -/
theorem errorTotal_recordAll :
    (m.recordAll calls).errorTotal = m.errorTotal + calls.countP Recording.isError := by
  have hkey (call : Recording) : call.errorCode?.isSome = call.isError := by
    cases call <;> rfl
  rw [errorTotal, errors_recordAll, Table.sum_tally, List.length_filterMap_eq_countP, errorTotal]
  simp only [hkey]

/-- The gauge keeps the last wait. -/
theorem waitSeconds_recordAll :
    (m.recordAll calls).waitSeconds =
      ((calls.filterMap Recording.seconds?).getLast?).getD m.waitSeconds := by
  induction calls generalizing m with
  | nil => rfl
  | cons call calls ih =>
    rw [recordAll, List.foldl_cons, ← recordAll, ih, List.filterMap_cons]
    cases call with
    | alignment seconds => simp [record, recordAlignment, Recording.seconds?, List.getLast?_cons]
    | _ => simp [record, recordRequest, recordCheck, recordError, Recording.seconds?]

theorem service_recordAll : (m.recordAll calls).service = m.service := by
  induction calls generalizing m with
  | nil => rfl
  | cons call calls ih =>
    rw [recordAll, List.foldl_cons, ← recordAll, ih]
    cases call <;> rfl

end Metrics

end RateIsolation
