/-
  What one message does to the gateway, and what earlier messages leave.

  * `Server.answer_effect`: a message changes nothing, issues one token, or
    counts and logs one call;
  * `Server.Reached s now`: the server `s` comes from a new one by messages
    whose readings of the clock never step back and are at most `now`;
  * `Server.Reached.noLater`: such a server has no counter of a later window.
-/
import RateIsolation.Gateway.Simulation
import RateIsolation.Proofs.Limiter

namespace RateIsolation

namespace Server

/-! ## One message -/

/-- What a message at a reading of the clock may do to the server. -/
inductive Effect (s : Server) (now : Int) : Server → Prop
  /-- Nothing changes. -/
  | kept : Effect s now s
  /-- A token is issued to a user. -/
  | issued (token user : String) :
    Effect s now { s with tokens := Table.set token user s.tokens }
  /-- A call is counted; it is logged too unless its route has no quota. -/
  | counted (token route : String) (calls : List ServedCall) :
    Effect s now { s with
      counters := (Limiter.hit (s.counterKey token route now) s.counters).2, log := calls }

/-- A call is refused without a trace or counted. -/
theorem allow_cases (s : Server) (token route : String) (now : Int) :
    (∃ fault, s.allow token route now = (.error fault, s)) ∨
      ∃ result, s.allow token route now = (result, { s with
        counters := (Limiter.hit (s.counterKey token route now) s.counters).2 }) := by
  unfold allow
  split
  · exact Or.inl ⟨_, rfl⟩
  · right
    dsimp only
    split
    · exact ⟨_, rfl⟩
    · exact ⟨_, rfl⟩

theorem resource_effect (s : Server) (route : String) (authorization : Option String) (now : Int) :
    Effect s now (s.resource route authorization now).2 := by
  unfold resource
  split
  · exact .kept
  · split
    · exact .kept
    · rename_i token _
      rcases allow_cases s token route now with ⟨fault, h⟩ | ⟨result, h⟩
      · rw [h]
        exact .kept
      · rw [h]
        match result with
        | .error _ => exact .counted token route s.log
        | .ok false => exact .counted token route _
        | .ok true => exact .counted token route _

theorem login_effect (s : Server) (username password token : String) (now : Int) :
    Effect s now (s.login username password token).2 := by
  unfold login
  split
  · exact .issued token username
  · exact .kept

theorem dispatch_effect (s : Server) (route : Route) (m : Incoming) (now : Int) (token : String) :
    Effect s now (s.dispatch route m now token).2 := by
  unfold dispatch
  split
  · exact .kept
  · split
    · exact .kept
    · rename_i username password _
      have hlogin := login_effect s username password token now
      split
      all_goals
        rename_i h
        rw [h] at hlogin
        exact hlogin
  · exact resource_effect s _ _ now

/-- **A message has one effect at most.** -/
theorem answer_effect (s : Server) (m : Incoming) (now : Int) (token : String) :
    Effect s now (s.answer m now token).2 := by
  unfold answer
  split
  · split
    · exact dispatch_effect s _ m now token
    · exact .kept
  · split <;> exact .kept

theorem handle_effect (newId : Nat → String) (next : Nat) (s : Server) (m : Incoming) (now : Int) :
    Effect s now (s.handle newId next m now).2.2 := by
  have hanswer := answer_effect s m now (newId next)
  unfold handle
  split
  all_goals
    rename_i h
    rw [h] at hanswer
    exact hanswer

/-! ## Earlier messages -/

/-- Nothing was issued, counted or logged yet. -/
structure IsNew (s : Server) : Prop where
  tokens : s.tokens = []
  counters : s.counters = []
  log : s.log = []

/-- A server that comes from a new one by messages at readings of the clock that never step back,
    none of them past `now`. -/
inductive Reached : Server → Int → Prop
  | new {s : Server} (now : Int) (h : s.IsNew) : Reached s now
  | waited {s : Server} {now later : Int} (h : Reached s now) (hle : now ≤ later) :
    Reached s later
  | handled {s : Server} {now : Int} (h : Reached s now) (newId : Nat → String) (next : Nat)
    (m : Incoming) : Reached (s.handle newId next m now).2.2 now

/-- No counter is of a window after that of the reading. -/
def NoLater (s : Server) (now : Int) : Prop :=
  ∀ key n, Table.get? key s.counters = some n → key.window ≤ windowOf s.window now

theorem NoLater.mono {s : Server} {now later : Int} (h : s.NoLater now) (hw : 0 < s.window)
    (hle : now ≤ later) : s.NoLater later :=
  fun key n hn => Int.le_trans (h key n hn) (windowOf_mono hw hle)

theorem Effect.window_eq {s s' : Server} {now : Int} (h : Effect s now s') :
    s'.window = s.window := by
  cases h <;> rfl

theorem Effect.noLater {s s' : Server} {now : Int} (h : Effect s now s') (hs : s.NoLater now) :
    s'.NoLater now := by
  cases h with
  | kept => exact hs
  | issued token user => exact hs
  | counted token route calls =>
    intro key n hn
    dsimp only at hn
    rw [Limiter.get?_hit] at hn
    split at hn
    · rename_i hkey
      rw [hkey]
      exact Int.le_refl _
    · split at hn
      · exact hs key n hn
      · cases hn

/-- **Earlier messages leave no later counter.** -/
theorem Reached.noLater {s : Server} {now : Int} (h : s.Reached now) (hw : 0 < s.window) :
    s.NoLater now := by
  induction h with
  | new now h =>
    intro key n hn
    rw [h.counters] at hn
    cases hn
  | waited _ hle ih => exact (ih hw).mono hw hle
  | @handled s now _ newId next m ih =>
    have heffect := handle_effect newId next s m now
    rw [heffect.window_eq] at hw
    exact heffect.noLater (ih hw)

end Server

end RateIsolation
