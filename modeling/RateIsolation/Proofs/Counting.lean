/-
  Counting calls on counters that are not there yet.

  * `Limiter.hitAll_of_new`: such calls are counted among themselves;
  * `Limiter.served` is the number of them within a quota, and
    `Limiter.served_eq_sum` says that each counter serves up to the quota.
-/
import Mathlib.Algebra.BigOperators.Group.Finset.Piecewise
import RateIsolation.Proofs.Limiter

namespace RateIsolation

namespace Limiter

/-! ## Calls on new counters -/

theorem countsAfter_append (start : Counters) (keys : List CounterKey) (key : CounterKey) :
    ∀ seen : List CounterKey, countsAfter start seen (keys ++ [key]) =
      countsAfter start seen keys ++
        [(Table.get? key start).getD 0 + (seen ++ keys ++ [key]).count key] := by
  induction keys with
  | nil =>
    intro seen
    simp [countsAfter]
  | cons first keys ih =>
    intro seen
    simp [countsAfter, ih]

/-- Counters that the calls do not meet do not matter. -/
theorem countsAfter_of_new {start : Counters} {keys : List CounterKey}
    (h : ∀ k ∈ keys, Table.get? k start = none) :
    ∀ seen : List CounterKey, countsAfter start seen keys = countsAfter [] seen keys := by
  induction keys with
  | nil => exact fun _ => rfl
  | cons key keys ih =>
    intro seen
    have hrest := ih (fun k hk => h k (List.mem_cons_of_mem _ hk)) (seen ++ [key])
    simp only [countsAfter, h key List.mem_cons_self, hrest, Table.get?_nil]

/-- Calls in windows that never step back, on counters that are not there yet, are counted among
    themselves. -/
theorem hitAll_of_new {start : Counters} {keys : List CounterKey}
    (hmono : (keys.map CounterKey.window).Pairwise (· ≤ ·))
    (hnew : ∀ k ∈ keys, Table.get? k start = none) :
    (hitAll keys start).1 = countsAfter [] [] keys := by
  have hsteady : Steady keys := by
    rw [List.pairwise_map] at hmono
    exact hmono.imp fun h => Int.le_trans h (by omega)
  rw [(tracks_hitAll (tracks_nil start) hsteady).1, countsAfter_of_new hnew]

/-! ## Calls within a quota -/

/-- How many of some calls on new counters are within a quota. -/
def served (quota : Int) (keys : List CounterKey) : Nat :=
  (countsAfter [] [] keys).countP (within quota)

theorem served_concat (quota : Int) (keys : List CounterKey) (key : CounterKey) :
    served quota (keys ++ [key]) =
      served quota keys + if ((keys.count key + 1 : Nat) : Int) ≤ quota then 1 else 0 := by
  have hcount : (Table.get? key ([] : Counters)).getD 0 + ([] ++ keys ++ [key]).count key =
      keys.count key + 1 := by
    rw [Table.get?_nil, Option.getD_none, Nat.zero_add, List.nil_append, List.count_append,
      List.count_singleton_self]
  rw [served, countsAfter_append, hcount, List.countP_append, List.countP_singleton, served]
  simp only [within, decide_eq_true_eq]

/-- One more call adds to the part of its own counter, as long as that is below the quota. -/
theorem min_count_concat (quota : Int) (keys : List CounterKey) (key k : CounterKey) :
    min quota ((keys ++ [key]).count k : Int) = min quota (keys.count k : Int) +
      if k = key then (if ((keys.count key + 1 : Nat) : Int) ≤ quota then 1 else 0) else 0 := by
  rw [List.count_append, List.count_singleton]
  by_cases hk : k = key
  · subst hk
    simp only [beq_self_eq_true, ↓reduceIte]
    split <;> omega
  · have hne : (key == k) = false := by simpa using Ne.symm hk
    simp only [hne, hk, Bool.false_eq_true, ↓reduceIte, Nat.add_zero, Int.add_zero]

/-- **Each counter serves up to the quota.** -/
theorem served_eq_sum {quota : Int} (hquota : 0 ≤ quota) (keys : List CounterKey) :
    (served quota keys : Int) = ∑ k ∈ keys.toFinset, min quota (keys.count k : Int) := by
  -- over any set that holds the counters, so that the set stays when a call is added
  have hall : ∀ set : Finset CounterKey, (∀ k ∈ keys, k ∈ set) →
      (served quota keys : Int) = ∑ k ∈ set, min quota (keys.count k : Int) := by
    intro set
    induction keys using List.reverseRecOn with
    | nil =>
      intro _
      simp [served, countsAfter, hquota]
    | append_singleton keys key ih =>
      intro hset
      have hrest := ih fun k hk => hset k (List.mem_append_left _ hk)
      have hkey : key ∈ set := hset key (by simp)
      simp only [min_count_concat, Finset.sum_add_distrib, Finset.sum_ite_eq', hkey, ↓reduceIte]
      rw [served_concat, ← hrest]
      split <;> simp
  exact hall _ fun k hk => List.mem_toFinset.2 hk

end Limiter

end RateIsolation
