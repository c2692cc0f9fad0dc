/-
  What an action does to the session.

  * `Harness.Ends view x v r v'`: started on a session of which `view` shows
    `v`, the action `x` ends with `r`, and `view` shows `v'` of the session that
    it leaves; `Ends.bind` and `Ends.bind_error` follow an action step by step;
  * `Harness.Leads x st r st'` is the same for the state of the outside alone,
    whatever the log, the metrics and the printed text are;
  * `leads_log`, `leads_record` and the like: what is written for the reader
    changes neither the result nor the outside;
  * `leads_send`, `leads_sleep`, `leads_newId`, `leads_readClock`: what the
    outside is asked;
  * `Session.unlogged` is a session without its log; `ends_setPhase`,
    `ends_record`, `ends_send` and the like are the steps on it;
  * `Session.logged` is a session after calls of loggers, of which it keeps the
    `Session.records`; `run_log` and `run_send` are the steps that write to it.
-/
import RateIsolation.Scenario

namespace RateIsolation.Harness

variable {σ τ α β : Type}

/-! ## Sequences -/

theorem run_bind (x : Harness σ α) (f : α → Harness σ β) (s : Session σ) :
    (x >>= f).run.run s =
      match x.run.run s with
      | (.ok a, s') => (f a).run.run s'
      | (.error e, s') => (.error e, s') := by
  simp only [ExceptT.run_bind, StateT.run_bind]
  rcases x.run.run s with ⟨_ | _, s'⟩ <;> rfl

theorem run_bind_of_ok {x : Harness σ α} {f : α → Harness σ β} {s s₁ : Session σ} {a : α}
    (h : x.run.run s = (.ok a, s₁)) : (x >>= f).run.run s = (f a).run.run s₁ := by
  rw [run_bind, h]

theorem run_bind_of_error {x : Harness σ α} {f : α → Harness σ β} {s s₁ : Session σ} {e : Fault}
    (h : x.run.run s = (.error e, s₁)) : (x >>= f).run.run s = (.error e, s₁) := by
  rw [run_bind, h]

/-- Giving the result another form does nothing else. -/
theorem run_bind_pure (x : Harness σ α) (g : α → β) (s : Session σ) :
    ((x >>= fun a => pure (g a)).run.run s).2 = (x.run.run s).2 := by
  rw [run_bind]
  rcases x.run.run s with ⟨_ | _, _⟩ <;> rfl

theorem run_tryCatch (x : Harness σ α) (g : Fault → Harness σ α) (s : Session σ) :
    (tryCatch x g).run.run s =
      match x.run.run s with
      | (.ok a, s') => (.ok a, s')
      | (.error e, s') => (g e).run.run s' := by
  simp only [ExceptT.run_tryCatch, StateT.run_bind]
  rcases x.run.run s with ⟨_ | _, s'⟩ <;> rfl

theorem run_ensuring (x : Harness σ α) (after : Harness σ Unit) (s : Session σ) :
    (ensuring x after).run.run s =
      match after.run.run (x.run.run s).2 with
      | (.ok _, s') => ((x.run.run s).1, s')
      | (.error e, s') => (.error e, s') := by
  have hlift : (ExceptT.lift x.run : Harness σ (Except Fault α)).run.run s =
      (.ok (x.run.run s).1, (x.run.run s).2) := rfl
  rw [ensuring, run_bind, hlift]
  dsimp only
  rw [run_bind]
  rcases after.run.run (x.run.run s).2 with ⟨_ | _, s'⟩
  · rfl
  · rcases (x.run.run s).1 with _ | _ <;> rfl

/-! ## Ends of an action -/

/-- What an action comes to on a session of which `view` shows `v`, and what `view` shows of the
    session that it leaves. -/
def Ends (view : Session σ → τ) (x : Harness σ α) (v : τ) (r : Except Fault α) (v' : τ) : Prop :=
  ∀ s : Session σ, view s = v → ∃ s', x.run.run s = (r, s') ∧ view s' = v'

section Ends

variable {view : Session σ → τ} {x : Harness σ α} {f : α → Harness σ β} {v v' v'' : τ} {a : α}
  {e : Fault}

theorem ends_pure (a : α) (v : τ) : Ends view (pure a) v (.ok a) v := fun s hs => ⟨s, rfl, hs⟩

theorem ends_throw (e : Fault) (v : τ) : Ends view (throw e : Harness σ α) v (.error e) v :=
  fun s hs => ⟨s, rfl, hs⟩

theorem Ends.bind {r : Except Fault β} (h₁ : Ends view x v (.ok a) v')
    (h₂ : Ends view (f a) v' r v'') : Ends view (x >>= f) v r v'' := by
  intro s hs
  obtain ⟨s', hx, hs'⟩ := h₁ s hs
  obtain ⟨s'', hf, hs''⟩ := h₂ s' hs'
  exact ⟨s'', (run_bind_of_ok hx).trans hf, hs''⟩

theorem Ends.bind_error (h : Ends view x v (.error e) v') :
    Ends view (x >>= f) v (.error e) v' := by
  intro s hs
  obtain ⟨s', hx, hs'⟩ := h s hs
  exact ⟨s', run_bind_of_error hx, hs'⟩

theorem ends_modify {g : Session σ → Session σ} (hg : ∀ s, view s = v → view (g s) = v') :
    Ends view (modify g : Harness σ Unit) v (.ok ()) v' :=
  fun s hs => ⟨g s, rfl, hg s hs⟩

/-- Actions in a row keep what each of them keeps. -/
theorem ends_forM {g : β → Harness σ Unit} (hg : ∀ b v, Ends view (g b) v (.ok ()) v) (l : List β)
    (v : τ) : Ends view (l.forM g) v (.ok ()) v := by
  induction l with
  | nil => exact ends_pure () v
  | cons b l ih => exact (hg b v).bind ih

/-- A step on every way out of an action that comes to its end keeps the action's result. -/
theorem Ends.ensuring {r : Except Fault α} {after : Harness σ Unit} (h : Ends view x v r v')
    (hafter : Ends view after v' (.ok ()) v'') : Ends view (ensuring x after) v r v'' := by
  intro s hs
  obtain ⟨s', hx, hs'⟩ := h s hs
  obtain ⟨s'', ha, hs''⟩ := hafter s' hs'
  refine ⟨s'', ?_, hs''⟩
  rw [run_ensuring, hx]
  dsimp only
  rw [ha]

theorem Ends.tryCatch_ok {g : Fault → Harness σ α} (h : Ends view x v (.ok a) v') :
    Ends view (tryCatch x g) v (.ok a) v' := by
  intro s hs
  obtain ⟨s', hx, hs'⟩ := h s hs
  refine ⟨s', ?_, hs'⟩
  rw [run_tryCatch, hx]

theorem Ends.tryCatch_error {r : Except Fault α} {g : Fault → Harness σ α}
    (h : Ends view x v (.error e) v') (hg : Ends view (g e) v' r v'') :
    Ends view (tryCatch x g) v r v'' := by
  intro s hs
  obtain ⟨s', hx, hs'⟩ := h s hs
  obtain ⟨s'', he, hs''⟩ := hg s' hs'
  refine ⟨s'', ?_, hs''⟩
  rw [run_tryCatch, hx]
  exact he

end Ends

/-! ## The state of the outside -/

/-- What an action comes to on a state of the outside, and the state that it leaves. -/
def Leads (x : Harness σ α) (st : σ) (r : Except Fault α) (st' : σ) : Prop :=
  ∀ s : Session σ, s.world = st → ∃ s', x.run.run s = (r, s') ∧ s'.world = st'

variable {x : Harness σ α} {f : α → Harness σ β} {st st' st'' : σ} {a : α} {e : Fault}
  {r : Except Fault β}

theorem leads_pure (a : α) (st : σ) : Leads (pure a) st (.ok a) st := ends_pure a st

theorem leads_throw (e : Fault) (st : σ) : Leads (throw e : Harness σ α) st (.error e) st :=
  ends_throw e st

theorem Leads.bind (h₁ : Leads x st (.ok a) st') (h₂ : Leads (f a) st' r st'') :
    Leads (x >>= f) st r st'' :=
  Ends.bind h₁ h₂

theorem Leads.bind_error (h : Leads x st (.error e) st') :
    Leads (x >>= f) st (.error e) st' :=
  Ends.bind_error h

theorem leads_ofExcept_ok {ε : Type} (fault : ε → Fault) (a : α) (st : σ) :
    Leads (ofExcept fault (.ok a)) st (.ok a) st :=
  leads_pure a st

/-- An action has one end. -/
theorem Leads.unique {r₁ r₂ : Except Fault α} {st₁ st₂ : σ} (h₁ : Leads x st r₁ st₁)
    (h₂ : Leads x st r₂ st₂) : r₁ = r₂ ∧ st₁ = st₂ := by
  obtain ⟨s₁, hx₁, rfl⟩ := h₁ { world := st } rfl
  obtain ⟨s₂, hx₂, rfl⟩ := h₂ { world := st } rfl
  rw [hx₁] at hx₂
  cases hx₂
  exact ⟨rfl, rfl⟩

/-! ## What is written for the reader -/

/-- An action that changes the session beside the outside. -/
theorem leads_modify {g : Session σ → Session σ} (hg : ∀ s, (g s).world = s.world) (st : σ) :
    Leads (modify g : Harness σ Unit) st (.ok ()) st :=
  ends_modify fun s hs => (hg s).trans hs

theorem leads_log (logger : String) (severity : Severity) (event : String)
    (fields : List (String × Json)) (st : σ) :
    Leads (log logger severity event fields) st (.ok ()) st := by
  apply leads_modify
  intro s
  split <;> rfl

theorem leads_setPhase (phase : Option String) (st : σ) :
    Leads (setPhase phase) st (.ok ()) st := by
  apply leads_modify
  intro s
  rfl

theorem leads_record (call : Recording) (st : σ) : Leads (record call) st (.ok ()) st := by
  apply leads_modify
  intro s
  rfl

theorem leads_openConnection (timeout : Seconds) (st : σ) :
    Leads (openConnection timeout) st (.ok ()) st := by
  apply leads_modify
  intro s
  rfl

/-- Writing in a row writes for the reader only, if each of it does. -/
theorem leads_forM {g : β → Harness σ Unit} (hg : ∀ b st, Leads (g b) st (.ok ()) st)
    (l : List β) (st : σ) : Leads (l.forM g) st (.ok ()) st :=
  ends_forM hg l st

/-! ## What the outside is asked -/

theorem leads_ask (g : σ → α × σ) (st : σ) : Leads (ask g) st (.ok (g st).1) (g st).2 := by
  rintro s rfl
  exact ⟨_, rfl, rfl⟩

theorem leads_readClock (w : World σ) (st : σ) :
    Leads (readClock w) st (.ok (w.readClock st).1) (w.readClock st).2 :=
  leads_ask _ st

theorem leads_newId (w : World σ) (st : σ) :
    Leads (newId w) st (.ok (w.newId st).1) (w.newId st).2 :=
  leads_ask _ st

theorem leads_sleep {w : World σ} {time : Seconds} (h : (w.sleep time st).1 = .ok ()) :
    Leads (sleep w time) st (.ok ()) (w.sleep time st).2 := by
  refine (leads_ask _ st).bind ?_
  rw [h]
  exact leads_ofExcept_ok _ () _

/-- The notes of a gateway go to the log, the reply to the caller. -/
theorem leads_send (w : World σ) (request : Request) (st : σ) :
    Leads (send w request) st (.ok (w.send request st).1.reply) (w.send request st).2 := by
  refine (leads_ask _ st).bind ?_
  refine Leads.bind (leads_forM ?_ _ _) (leads_pure _ _)
  intro n st
  exact leads_log _ _ _ _ st

/-! ## What is done on every way out -/

/-- A step on every way out of an action that only writes for the reader keeps the end. -/
theorem Leads.ensuring {r : Except Fault α} {after : Harness σ Unit}
    (hafter : ∀ st, Leads after st (.ok ()) st) (h : Leads x st r st') :
    Leads (ensuring x after) st r st' :=
  Ends.ensuring h (hafter st')

/-- A handler that writes for the reader and passes the fault on keeps the end. -/
theorem Leads.tryCatch {r : Except Fault α} {g : Fault → Harness σ α}
    (hg : ∀ e st, Leads (g e) st (.error e) st) (h : Leads x st r st') :
    Leads (tryCatch x g) st r st' := by
  cases r with
  | ok a => exact Ends.tryCatch_ok h
  | error e => exact Ends.tryCatch_error h (hg e st')

end RateIsolation.Harness

namespace RateIsolation

variable {σ α β : Type}

/-- A session without what was written to its log. -/
def Session.unlogged (s : Session σ) : Session σ := { s with entries := [] }

namespace Harness

variable (v : Session σ)

/-! ## The session beside its log -/

theorem ends_log (logger : String) (severity : Severity) (event : String)
    (fields : List (String × Json)) :
    Ends Session.unlogged (log logger severity event fields) v (.ok ()) v := by
  apply ends_modify
  rintro s rfl
  split <;> rfl

theorem ends_setPhase (phase : Option String) :
    Ends Session.unlogged (setPhase phase) v (.ok ())
      { v with context := { v.context with phase := phase } } := by
  apply ends_modify
  rintro s rfl
  rfl

theorem ends_record (call : Recording) :
    Ends Session.unlogged (record call) v (.ok ())
      { v with metrics := v.metrics.map (Metrics.record · call) } := by
  apply ends_modify
  rintro s rfl
  rfl

theorem ends_openConnection (timeout : Seconds) :
    Ends Session.unlogged (openConnection timeout) v (.ok ())
      { v with opened := v.opened ++ [timeout] } := by
  apply ends_modify
  rintro s rfl
  rfl

theorem ends_ask (g : σ → α × σ) :
    Ends Session.unlogged (ask g) v (.ok (g v.world).1) { v with world := (g v.world).2 } := by
  rintro s rfl
  exact ⟨_, rfl, rfl⟩

theorem ends_send (w : World σ) (request : Request) :
    Ends Session.unlogged (send w request) v (.ok (w.send request v.world).1.reply)
      { v with world := (w.send request v.world).2 } := by
  refine (ends_ask v _).bind (Ends.bind (ends_forM ?_ _ _) (ends_pure _ _))
  intro n v
  exact ends_log v _ _ _ _

variable {v}

/-- What an action comes to beside the log tells what it does to the outside. -/
theorem Leads.of_unlogged {x : Harness σ α} {r : Except Fault α} {st st' : σ}
    (h : ∀ v : Session σ, v.world = st → ∃ v', Ends Session.unlogged x v r v' ∧ v'.world = st') :
    Leads x st r st' := by
  intro s hs
  obtain ⟨v', hx, hv'⟩ := h s.unlogged hs
  obtain ⟨s', hrun, hs'⟩ := hx s rfl
  refine ⟨s', hrun, ?_⟩
  rw [← hv', ← hs']
  rfl

end Harness

/-! ## The log of a session -/

/-- The records that calls of loggers add to the log: those of the loggers that write them. -/
def Session.records (s : Session σ) (notes : List LogNote) : List LogEntry :=
  (notes.filter fun n => s.logging.enabled n.logger n.severity).map fun n =>
    .record (logRecord s.logging.stamp s.context n.logger n.severity n.event n.fields)

/-- The session after calls of loggers. -/
def Session.logged (s : Session σ) (notes : List LogNote) : Session σ :=
  { s with entries := s.entries ++ s.records notes }

namespace Session

variable (s : Session σ)

theorem records_append (notes notes' : List LogNote) :
    s.records (notes ++ notes') = s.records notes ++ s.records notes' := by
  rw [records, List.filter_append, List.map_append]
  rfl

theorem logged_nil : s.logged [] = s := by
  show { s with entries := s.entries ++ [] } = s
  rw [List.append_nil]

theorem logged_logged (notes notes' : List LogNote) :
    (s.logged notes).logged notes' = s.logged (notes ++ notes') := by
  show { s with entries := s.entries ++ s.records notes ++ s.records notes' } = _
  rw [List.append_assoc, ← records_append]
  rfl

end Session

namespace Harness

variable (s : Session σ)

theorem run_log (logger : String) (severity : Severity) (event : String)
    (fields : List (String × Json)) :
    (log (σ := σ) logger severity event fields).run.run s =
      (.ok (), s.logged [⟨logger, severity, event, fields⟩]) := by
  show (_, if s.logging.enabled logger severity then _ else s) = _
  cases henabled : s.logging.enabled logger severity with
  | true => simp [Session.logged, Session.records, henabled]
  | false => simp [Session.logged, Session.records, henabled]

theorem run_writeNotes (notes : List LogNote) :
    (notes.forM (writeNote (σ := σ))).run.run s = (.ok (), s.logged notes) := by
  induction notes generalizing s with
  | nil => exact congrArg _ s.logged_nil.symm
  | cons n notes ih =>
    have hfirst : (writeNote n).run.run s = (.ok (), s.logged [n]) := run_log s _ _ _ _
    show (writeNote n >>= fun _ => notes.forM writeNote).run.run s = _
    rw [run_bind_of_ok hfirst, ih, Session.logged_logged]
    rfl

/-- A request is sent, and the notes of a gateway inside the process are written. -/
theorem run_send (w : World σ) (request : Request) :
    (send w request).run.run s = (.ok (w.send request s.world).1.reply,
      { s with world := (w.send request s.world).2 }.logged (w.send request s.world).1.notes) := by
  have hask : (ask (w.send request)).run.run s =
      (.ok (w.send request s.world).1, { s with world := (w.send request s.world).2 }) := rfl
  rw [send, run_bind_of_ok hask, run_bind_of_ok (run_writeNotes _ _)]
  rfl

end Harness

end RateIsolation
