/-
  A limiter that forgets old windows answers like one that never forgets.

  * `Limiter.Tracks` relates the counters that are kept to all calls so far: a
    counter is missing only where the call for it would lie more than one
    window back;
  * `Limiter.tracks_hit` is the step, `Limiter.tracks_hitAll` the history;
  * `Server.allowAll_eq_reference`: the gateway's answers to a history whose
    clock steps back by at most one window are those of `Reference.answers`.
-/
import Mathlib.Tactic.SplitIfs
import RateIsolation.Gateway.Server
import RateIsolation.Proofs.Window

namespace RateIsolation

/-! ## Counters -/

namespace Limiter

theorem get?_evict (current : Int) (k : CounterKey) (counters : Counters) :
    Table.get? k (evict current counters) =
      if current - 1 ≤ k.window then Table.get? k counters else none := by
  have := Table.get?_filter (fun j : CounterKey => decide (current - 1 ≤ j.window)) k counters
  simpa [evict] using this

/-- The count of a call is one more than its counter, which the call itself never forgets. -/
theorem hit_fst (key : CounterKey) (counters : Counters) :
    (hit key counters).1 = (Table.get? key counters).getD 0 + 1 := by
  have : key.window - 1 ≤ key.window := by omega
  simp [hit, get?_evict, this]

theorem get?_hit (key k : CounterKey) (counters : Counters) :
    Table.get? k (hit key counters).2 =
      if k = key then some ((Table.get? key counters).getD 0 + 1)
      else if key.window - 1 ≤ k.window then Table.get? k counters else none := by
  have hfst := hit_fst key counters
  simp only [hit] at hfst ⊢
  rw [Table.get?_set, hfst, get?_evict]

/-- Count calls in order: the count of each, and the counters after them. -/
def hitAll : List CounterKey → Counters → List Nat × Counters
  | [], counters => ([], counters)
  | key :: rest, counters =>
    let (count, counters') := hit key counters
    let (counts, last) := hitAll rest counters'
    (count :: counts, last)

theorem hitAll_append (keys more : List CounterKey) (counters : Counters) :
    hitAll (keys ++ more) counters =
      ((hitAll keys counters).1 ++ (hitAll more (hitAll keys counters).2).1,
        (hitAll more (hitAll keys counters).2).2) := by
  induction keys generalizing counters with
  | nil => rfl
  | cons key keys ih => simp [hitAll, ih]

theorem length_hitAll (keys : List CounterKey) (counters : Counters) :
    (hitAll keys counters).1.length = keys.length := by
  induction keys generalizing counters with
  | nil => rfl
  | cons key keys ih => simp [hitAll, ih]

/-- A counter that is kept was kept before or belongs to one of the calls. -/
theorem mem_or_kept_of_hitAll {keys : List CounterKey} {counters : Counters} {k : CounterKey}
    {n : Nat} (h : Table.get? k (hitAll keys counters).2 = some n) :
    k ∈ keys ∨ ∃ m, Table.get? k counters = some m := by
  induction keys generalizing counters with
  | nil => exact Or.inr ⟨n, h⟩
  | cons key keys ih =>
    have h' : Table.get? k (hitAll keys (hit key counters).2).2 = some n := h
    rcases ih h' with hk | ⟨m, hm⟩
    · exact Or.inl (List.mem_cons_of_mem _ hk)
    · rw [get?_hit] at hm
      split_ifs at hm with h₁ h₂
      · exact Or.inl (by simp [h₁])
      · exact Or.inr ⟨m, hm⟩

/-! ## What the kept counters tell about the calls so far -/

/-- No call of a history lies more than one window after `k`. -/
def WithinOne (seen : List CounterKey) (k : CounterKey) : Prop :=
  ∀ j ∈ seen, j.window ≤ k.window + 1

/-- The counters after the calls `seen`, counted from the counters `start`. -/
structure Tracks (start : Counters) (seen : List CounterKey) (counters : Counters) : Prop where
  /-- What is kept can still be asked for. -/
  recent : ∀ k n, Table.get? k counters = some n → WithinOne seen k
  /-- What can still be asked for is exact. -/
  exact : ∀ k, WithinOne seen k →
    (Table.get? k counters).getD 0 = (Table.get? k start).getD 0 + seen.count k

theorem tracks_nil (start : Counters) : Tracks start [] start :=
  ⟨fun _ _ _ _ hj => absurd hj List.not_mem_nil, fun _ _ => by simp⟩

theorem withinOne_concat {seen : List CounterKey} {key k : CounterKey} :
    WithinOne (seen ++ [key]) k ↔ WithinOne seen k ∧ key.window ≤ k.window + 1 := by
  simp only [WithinOne, List.mem_append, List.mem_singleton]
  constructor
  · intro h
    exact ⟨fun j hj => h j (Or.inl hj), h key (Or.inr rfl)⟩
  · rintro ⟨h₁, h₂⟩ j (hj | rfl)
    · exact h₁ j hj
    · exact h₂

/-- One call keeps the relation and is counted exactly, unless it lies more than one window back. -/
theorem tracks_hit {start counters : Counters} {seen : List CounterKey} {key : CounterKey}
    (h : Tracks start seen counters) (hkey : WithinOne seen key) :
    (hit key counters).1 = (Table.get? key start).getD 0 + (seen ++ [key]).count key ∧
      Tracks start (seen ++ [key]) (hit key counters).2 := by
  have hcount : (hit key counters).1 =
      (Table.get? key start).getD 0 + (seen ++ [key]).count key := by
    rw [hit_fst, h.exact key hkey, List.count_append, List.count_singleton_self]
    omega
  refine ⟨hcount, fun k n hk => ?_, fun k hk => ?_⟩
  · rw [get?_hit] at hk
    split_ifs at hk with h₁ h₂
    · subst h₁
      exact withinOne_concat.2 ⟨hkey, by omega⟩
    · exact withinOne_concat.2 ⟨h.recent k n hk, by omega⟩
  · obtain ⟨hk₁, hk₂⟩ := withinOne_concat.1 hk
    by_cases h₁ : k = key
    · subst h₁
      rw [get?_hit, if_pos rfl, ← hit_fst, hcount, Option.getD_some]
    · have h₂ : key.window - 1 ≤ k.window := by omega
      rw [get?_hit, if_neg h₁, if_pos h₂, h.exact k hk₁, List.count_append,
        List.count_singleton, if_neg (by simpa using Ne.symm h₁), Nat.add_zero]

/-- Calls whose windows step back by at most one. -/
def Steady (keys : List CounterKey) : Prop :=
  keys.Pairwise fun j k => j.window ≤ k.window + 1

theorem steady_concat {seen : List CounterKey} {key : CounterKey} :
    Steady (seen ++ [key]) ↔ Steady seen ∧ WithinOne seen key := by
  simp [Steady, WithinOne, List.pairwise_append]

/-- The counts of calls when nothing is forgotten: each call with those before it. -/
def countsAfter (start : Counters) (seen : List CounterKey) : List CounterKey → List Nat
  | [] => []
  | key :: rest =>
    ((Table.get? key start).getD 0 + (seen ++ [key]).count key) ::
      countsAfter start (seen ++ [key]) rest

theorem length_countsAfter (start : Counters) (seen keys : List CounterKey) :
    (countsAfter start seen keys).length = keys.length := by
  induction keys generalizing seen with
  | nil => rfl
  | cons key keys ih => simp [countsAfter, ih]

/-- A history that steps back by at most one window is counted exactly. -/
theorem tracks_hitAll {start : Counters} {keys : List CounterKey} :
    ∀ {seen : List CounterKey} {counters : Counters}, Tracks start seen counters →
      Steady (seen ++ keys) →
      (hitAll keys counters).1 = countsAfter start seen keys ∧
        Tracks start (seen ++ keys) (hitAll keys counters).2 := by
  induction keys with
  | nil =>
    intro seen counters h _
    simpa [hitAll, countsAfter] using h
  | cons key rest ih =>
    intro seen counters h hs
    have happ : seen ++ key :: rest = (seen ++ [key]) ++ rest := by simp
    rw [happ] at hs ⊢
    obtain ⟨hcount, hstep⟩ := tracks_hit h
      (steady_concat.1 (List.Pairwise.sublist (List.sublist_append_left _ _) hs)).2
    obtain ⟨h₁, h₂⟩ := ih hstep hs
    exact ⟨by simp [hitAll, countsAfter, hcount, h₁], h₂⟩

end Limiter

/-! ## The gateway's limiter -/

namespace Server

/-- The answers of the limiter to calls in order, and the server after them. -/
def allowAll (s : Server) : List LimiterCall → List (Except ServerFault Bool) × Server
  | [] => ([], s)
  | c :: rest =>
    let (answer, s') := s.allow c.token c.route c.now
    let (answers, last) := s'.allowAll rest
    (answer :: answers, last)

/-- The counter of a call at a server. -/
def keyOf (s : Server) (c : LimiterCall) : CounterKey := s.counterKey c.token c.route c.now

/-- The answer that a count of a call is given. -/
def answerTo (s : Server) (c : LimiterCall) (count : Nat) : Except ServerFault Bool :=
  match Table.get? (s.quotaRoute c.route) s.quotas with
  | none => .error (.missingQuota (s.quotaRoute c.route))
  | some quota => .ok (Limiter.within quota count)

/-- A call changes the counters alone, whatever it is answered. -/
theorem allow_eq {s : Server} (hw : s.window ≠ 0) (c : LimiterCall) :
    s.allow c.token c.route c.now =
      (s.answerTo c (Limiter.hit (s.keyOf c) s.counters).1,
        { s with counters := (Limiter.hit (s.keyOf c) s.counters).2 }) := by
  simp only [allow, hw, ↓reduceIte, answerTo, keyOf]
  cases Table.get? (s.quotaRoute c.route) s.quotas <;> rfl

theorem allowAll_eq {s : Server} (hw : s.window ≠ 0) (calls : List LimiterCall) :
    s.allowAll calls =
      (List.zipWith s.answerTo calls (Limiter.hitAll (calls.map s.keyOf) s.counters).1,
        { s with counters := (Limiter.hitAll (calls.map s.keyOf) s.counters).2 }) := by
  induction calls generalizing s with
  | nil => rfl
  | cons c rest ih =>
    simp only [allowAll, allow_eq hw]
    rw [ih (s := { s with counters := (Limiter.hit (s.keyOf c) s.counters).2 }) hw]
    rfl

end Server

namespace Reference

/-- The answers to calls that follow others, by a table of quotas, when nothing is forgotten. -/
def answers (length : Int) (quotas : Table String Int) (before : List LimiterCall) :
    List LimiterCall → List (Except ServerFault Bool)
  | [] => []
  | c :: rest =>
    (match Table.get? c.route quotas with
      | none => .error (.missingQuota c.route)
      | some quota => .ok (allows length (fun _ => quota) before c)) ::
      answers length quotas (before ++ [c]) rest

theorem count_eq (length : Int) (calls : List LimiterCall) (key : CounterKey) :
    count length calls key = (calls.map (LimiterCall.key length)).count key := by
  simp only [count, List.count, List.countP_map]
  exact List.countP_congr fun c _ => by simp

end Reference

/-- Calls at readings whose windows step back by at most one. -/
def SteadyCalls (length : Int) (calls : List LimiterCall) : Prop :=
  calls.Pairwise fun c d => windowOf length c.now ≤ windowOf length d.now + 1

theorem steady_map_key {length : Int} {calls : List LimiterCall} :
    Limiter.Steady (calls.map (LimiterCall.key length)) ↔ SteadyCalls length calls := by
  simp [Limiter.Steady, SteadyCalls, List.pairwise_map, LimiterCall.key]

/-- A clock that never steps back is steady. -/
theorem steadyCalls_of_nondecreasing {length : Int} {calls : List LimiterCall} (hl : 0 < length)
    (h : calls.Pairwise fun c d => c.now ≤ d.now) : SteadyCalls length calls :=
  h.imp fun hcd => by
    have := windowOf_mono hl hcd
    omega

namespace Server

theorem keyOf_eq_key {s : Server} (hs : s.sharing = .none) :
    s.keyOf = LimiterCall.key s.window := by
  funext c
  simp [keyOf, counterKey, LimiterCall.key, hs]

/-- Exact counts give the answers of the reference. -/
theorem zipWith_answerTo_countsAfter {s : Server} (hs : s.sharing = .none)
    (calls before : List LimiterCall) :
    List.zipWith s.answerTo calls (Limiter.countsAfter [] (before.map (LimiterCall.key s.window))
        (calls.map (LimiterCall.key s.window))) =
      Reference.answers s.window s.quotas before calls := by
  induction calls generalizing before with
  | nil => rfl
  | cons c rest ih =>
    have hrest := ih (before ++ [c])
    simp only [List.map_append, List.map_cons, List.map_nil] at hrest
    simp only [List.map_cons, Limiter.countsAfter, List.zipWith_cons_cons, hrest,
      Reference.answers, List.cons.injEq, and_true]
    simp [answerTo, quotaRoute, hs, Reference.allows, Reference.count_eq]

/-- **Forgetting old windows changes no answer.**  From empty counters, whatever the quotas, the
    limiter answers a history whose windows step back by at most one (as those of a clock that
    never steps back do) like one that never forgets; after each call the counters that are kept
    are exact, and none is of a window before the previous one. -/
theorem allowAll_eq_reference (s : Server) (calls : List LimiterCall) (hw : 0 < s.window)
    (hs : s.sharing = .none) (he : s.counters = []) :
    (calls.Pairwise (fun c d => c.now ≤ d.now) → SteadyCalls s.window calls) ∧
      (SteadyCalls s.window calls →
        (s.allowAll calls).1 = Reference.answers s.window s.quotas [] calls ∧
        ∀ before c after, calls = before ++ c :: after →
          ∀ key n, Table.get? key (s.allowAll (before ++ [c])).2.counters = some n →
            windowOf s.window c.now - 1 ≤ key.window ∧
              n = Reference.count s.window (before ++ [c]) key) := by
  refine ⟨steadyCalls_of_nondecreasing hw, fun hsteady => ?_⟩
  have hw₀ : s.window ≠ 0 := by omega
  -- what is known of every start of the history
  have hstart : ∀ part : List LimiterCall, part.Sublist calls →
      (Limiter.hitAll (part.map s.keyOf) s.counters).1 =
          Limiter.countsAfter [] [] (part.map s.keyOf) ∧
        Limiter.Tracks [] (part.map s.keyOf) (Limiter.hitAll (part.map s.keyOf) s.counters).2 := by
    intro part hpart
    rw [he, keyOf_eq_key hs]
    have := List.Pairwise.sublist hpart hsteady
    exact Limiter.tracks_hitAll (Limiter.tracks_nil []) (steady_map_key.2 this)
  constructor
  · rw [allowAll_eq hw₀, (hstart calls (List.Sublist.refl _)).1, keyOf_eq_key hs]
    exact zipWith_answerTo_countsAfter hs calls []
  · rintro before c after rfl key n hn
    have hsub : (before ++ [c]).Sublist (before ++ c :: after) :=
      List.Sublist.append_left (by simp) before
    obtain ⟨-, htracks⟩ := hstart (before ++ [c]) hsub
    rw [allowAll_eq hw₀] at hn
    have hwithin := htracks.recent key n hn
    have hexact := htracks.exact key hwithin
    rw [hn] at hexact
    constructor
    · have := hwithin (s.keyOf c) (by simp)
      rw [keyOf_eq_key hs] at this
      simp only [LimiterCall.key] at this
      omega
    · rw [Reference.count_eq, ← keyOf_eq_key hs]
      simpa using hexact

/-- A clock that steps back by one window: the call at 1990 is the second in its window. -/
theorem allowAll_eq_reference_stepBack :
    let s : Server := { quotas := [("/api/v1/users", 1)] }
    let calls : List LimiterCall := [⟨"t", "/api/v1/users", 1010⟩, ⟨"t", "/api/v1/users", 2010⟩,
      ⟨"t", "/api/v1/users", 1990⟩]
    SteadyCalls s.window calls ∧ (s.allowAll calls).1 = [.ok true, .ok true, .ok false] := by
  intro s calls
  have hsteady : SteadyCalls s.window calls := by unfold SteadyCalls; decide
  refine ⟨hsteady, ?_⟩
  rw [((allowAll_eq_reference s calls (by decide) rfl rfl).2 hsteady).1]
  rfl

end Server

end RateIsolation
