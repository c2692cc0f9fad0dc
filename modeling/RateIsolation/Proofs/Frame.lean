/-
  What an action leaves alone.

  * `Harness.Moves rel x`: whatever the action `x` comes to, `rel` holds between
    the session that it starts on and the one that it leaves;
  * `Harness.Works rel w`: the questions to the outside `w`, the metrics and what
    a logger writes are within `rel`, hence so is whatever a run does in one phase;
  * `Harness.Respects rel w`: anything that is written to the log or into its
    context is within `rel` too, hence so is the run: `moves_runScenario`;
  * `Harness.Keeps view x`: whatever `x` comes to, `view` shows the same of the
    session that it leaves; `Harness.Aside view`: `view` shows nothing of the
    outside, the log, the metrics and the connections but whether there are
    metrics;
  * `keeps_runScenario`: a run keeps whatever is aside in this sense, such as
    what was printed (`aside_printed`).
-/
import RateIsolation.Proofs.Action

namespace RateIsolation

variable {σ τ α β : Type}

namespace Harness

/-! ## Where an action can lead -/

/-- Whatever an action comes to, it leaves a session that is related to the one before. -/
def Moves (rel : Session σ → Session σ → Prop) (x : Harness σ α) : Prop :=
  ∀ s, rel s (x.run.run s).2

/-- Doing nothing is within the relation, and so is one move after another. -/
structure Composes (rel : Session σ → Session σ → Prop) : Prop where
  refl : ∀ s, rel s s
  trans : ∀ {s₁ s₂ s₃}, rel s₁ s₂ → rel s₂ s₃ → rel s₁ s₃

/-- The steps within a phase of a run against an outside lead to related sessions. -/
structure Works (rel : Session σ → Session σ → Prop) (w : World σ) : Prop
    extends Composes rel where
  logged : ∀ logger severity event fields, Moves rel (log (σ := σ) logger severity event fields)
  recorded : ∀ s call, rel s { s with metrics := s.metrics.map (Metrics.record · call) }
  opened : ∀ s opened, rel s { s with opened := opened }
  readClock : ∀ s, rel s { s with world := (w.readClock s.world).2 }
  sleep : ∀ s time, rel s { s with world := (w.sleep time s.world).2 }
  newId : ∀ s, rel s { s with world := (w.newId s.world).2 }
  send : ∀ s request, rel s { s with world := (w.send request s.world).2 }

/-- All steps of a run against an outside lead to related sessions. -/
structure Respects (rel : Session σ → Session σ → Prop) (w : World σ) : Prop
    extends Composes rel where
  entries : ∀ s entries, rel s { s with entries := entries }
  context : ∀ s context, rel s { s with context := context }
  recorded : ∀ s call, rel s { s with metrics := s.metrics.map (Metrics.record · call) }
  opened : ∀ s opened, rel s { s with opened := opened }
  readClock : ∀ s, rel s { s with world := (w.readClock s.world).2 }
  sleep : ∀ s time, rel s { s with world := (w.sleep time s.world).2 }
  newId : ∀ s, rel s { s with world := (w.newId s.world).2 }
  send : ∀ s request, rel s { s with world := (w.send request s.world).2 }

theorem Respects.works {rel : Session σ → Session σ → Prop} {w : World σ}
    (h : Respects rel w) : Works rel w where
  toComposes := h.toComposes
  logged logger severity event fields s := by
    show rel s (if s.logging.enabled logger severity then _ else s)
    split
    · exact h.entries s _
    · exact h.refl s
  recorded := h.recorded
  opened := h.opened
  readClock := h.readClock
  sleep := h.sleep
  newId := h.newId
  send := h.send

instance (rel : Session σ → Session σ → Prop) (w : World σ) :
    CoeOut (Works rel w) (Composes rel) :=
  ⟨Works.toComposes⟩

instance (rel : Session σ → Session σ → Prop) (w : World σ) :
    CoeOut (Respects rel w) (Works rel w) :=
  ⟨Respects.works⟩

instance (rel : Session σ → Session σ → Prop) (w : World σ) :
    CoeOut (Respects rel w) (Composes rel) :=
  ⟨Respects.toComposes⟩

section Moves

variable {rel : Session σ → Session σ → Prop} (h : Composes rel) {x : Harness σ α}
  {f : α → Harness σ β}

include h

theorem moves_pure (a : α) : Moves rel (pure a) := h.refl

theorem moves_throw (e : Fault) : Moves rel (throw e : Harness σ α) := h.refl

theorem Moves.bind (hx : Moves rel x) (hf : ∀ a, Moves rel (f a)) : Moves rel (x >>= f) := by
  intro s
  have hs := hx s
  rw [run_bind]
  rcases hrun : x.run.run s with ⟨_ | a, s'⟩ <;> rw [hrun] at hs
  · exact hs
  · exact h.trans hs (hf a s')

theorem moves_ofExcept {ε : Type} (fault : ε → Fault) (r : Except ε α) :
    Moves rel (ofExcept fault r) := by
  cases r with
  | ok a => exact moves_pure h a
  | error e => exact moves_throw h (fault e)

theorem Moves.forM {g : β → Harness σ Unit} (hg : ∀ b, Moves rel (g b)) (l : List β) :
    Moves rel (l.forM g) := by
  induction l with
  | nil => exact moves_pure h ()
  | cons b l ih => exact (hg b).bind h fun _ => ih

theorem Moves.tryCatch {g : Fault → Harness σ α} (hx : Moves rel x) (hg : ∀ e, Moves rel (g e)) :
    Moves rel (tryCatch x g) := by
  intro s
  have hs := hx s
  rw [run_tryCatch]
  rcases hrun : x.run.run s with ⟨e | _, s'⟩ <;> rw [hrun] at hs
  · exact h.trans hs (hg e s')
  · exact hs

theorem Moves.ensuring {after : Harness σ Unit} (hx : Moves rel x) (hafter : Moves rel after) :
    Moves rel (ensuring x after) := by
  intro s
  have hs := h.trans (hx s) (hafter (x.run.run s).2)
  rw [run_ensuring]
  rcases hrun : after.run.run (x.run.run s).2 with ⟨_ | _, s'⟩ <;> rw [hrun] at hs <;> exact hs

end Moves

/-! ## The steps of a run -/

section Works

variable {rel : Session σ → Session σ → Prop} {w : World σ} (h : Works rel w)

include h

theorem moves_log (logger : String) (severity : Severity) (event : String)
    (fields : List (String × Json)) : Moves rel (log logger severity event fields) :=
  h.logged logger severity event fields

theorem moves_record (call : Recording) : Moves rel (record call) :=
  fun s => h.recorded s call

theorem moves_openConnection (timeout : Seconds) : Moves rel (openConnection timeout) :=
  fun s => h.opened s _

theorem moves_newId : Moves rel (newId w) := h.newId

theorem moves_sleep (time : Seconds) : Moves rel (sleep w time) :=
  Moves.bind h (fun s => h.sleep s time) fun _ => moves_ofExcept h _ _

theorem moves_send (request : Request) : Moves rel (send w request) := by
  refine Moves.bind h (fun s => h.send s request) fun exchange => ?_
  exact (Moves.forM h (fun n => moves_log h _ _ _ _) _).bind h fun _ => moves_pure h _

end Works

section Respects

variable {rel : Session σ → Session σ → Prop} {w : World σ} (h : Respects rel w)

include h

theorem moves_setPhase (phase : Option String) : Moves rel (setPhase phase) :=
  fun s => h.context s _

theorem moves_setRunId (runId : String) : Moves rel (setRunId runId) :=
  fun s => h.context s _

theorem moves_beginRun (runId : Option String) : Moves rel (beginRun w runId) := by
  have hset (id : String) : Moves rel (do
      setRunId (σ := σ) id
      return id) :=
    (moves_setRunId h id).bind h fun _ => moves_pure h id
  cases runId with
  | some id => exact hset id
  | none => exact (moves_newId h.works).bind h hset

end Respects

end Harness

/-! ## Runs -/

section Works

open Harness

variable {rel : Session σ → Session σ → Prop} {w : World σ} (h : Works rel w)

include h

theorem LoginService.moves_report (i : Identity) (judged : Except LoginFailure String) :
    Moves rel (report (σ := σ) i judged) := by
  unfold report
  split
  case h_3 | h_4 => exact moves_pure h ()
  all_goals exact moves_log h _ _ _ _

theorem LoginService.moves_acquire (l : LoginService) (i : Identity) :
    Moves rel (l.acquire w i) := by
  unfold acquire
  split
  case' isTrue => refine (moves_openConnection h _).bind h fun _ => ?_
  all_goals
    refine (moves_ofExcept h _ _).bind h fun url => (moves_send h _).bind h fun reply => ?_
    refine (moves_ofExcept h _ _).bind h fun judged => (moves_report h i judged).bind h fun _ => ?_
    cases judged with
    | error failure => exact moves_throw h _
    | ok token => exact moves_pure h _

namespace GatewayClient

variable (g : GatewayClient) (t : Target) (c : Credential)

theorem moves_statusOf (id : String) (reply : Reply) :
    Moves rel (statusOf (σ := σ) t id reply) := by
  unfold statusOf
  split
  · exact moves_pure h _
  · exact (moves_log h _ _ _ _).bind h fun _ => moves_pure h _
  · exact moves_throw h _

theorem moves_counted : Moves rel (g.counted w t c) := by
  have hcall : Moves rel (g.call w t c) := by
    refine (moves_newId h).bind h fun id => (moves_ofExcept h _ _).bind h fun request => ?_
    exact (moves_send h request).bind h fun reply => moves_statusOf h t id reply
  exact hcall.bind h fun status => (moves_record h _).bind h fun _ => moves_pure h status

theorem moves_repeated (n : Nat) : Moves rel (g.repeated w t c n) := by
  induction n with
  | zero => exact moves_pure h _
  | succ n ih =>
    exact (g.moves_counted h t c).bind h fun _ => ih.bind h fun _ => moves_pure h _

theorem moves_burst (count : Int) : Moves rel (g.burst w t c count) := by
  unfold burst
  split
  case' isTrue => refine (moves_throw h _).bind h fun _ => ?_
  all_goals
    refine (g.moves_repeated h t c _).bind h fun _ => ?_
    exact (moves_log h _ _ _ _).bind h fun _ => moves_pure h _

theorem moves_probe : Moves rel (g.probe w t c) :=
  (g.moves_counted h t c).bind h fun _ => (moves_log h _ _ _ _).bind h fun _ => moves_pure h _

end GatewayClient

namespace Scenario

theorem moves_alignWindow (a : Aligner) : Moves rel (alignWindow w a) := by
  have halign : Moves rel (a.align w) := by
    refine Moves.bind h h.readClock fun now => (moves_ofExcept h _ _).bind h fun wait => ?_
    refine (moves_log h _ _ _ _).bind h fun _ => ?_
    split
    · exact moves_throw h _
    · exact (moves_sleep h _).bind h fun _ => moves_pure h _
  refine halign.bind h fun alignment => ?_
  split
  case' h_1 => refine (moves_throw h _).bind h fun _ => ?_
  case' h_2 => refine (moves_record h _).bind h fun _ => ?_
  all_goals exact (moves_log h _ _ _ _).bind h fun _ => moves_pure h _

end Scenario

end Works

section Respects

open Harness

variable {rel : Session σ → Session σ → Prop} {w : World σ} (h : Respects rel w)

include h

namespace Scenario

theorem moves_experiments (s : Scenario) : Moves rel (s.experiments w) := by
  refine (moves_setPhase h _).bind h fun _ => (s.auth.moves_acquire h _).bind h fun tokenA => ?_
  refine (s.auth.moves_acquire h _).bind h fun tokenB => (moves_setPhase h _).bind h fun _ => ?_
  refine (moves_alignWindow h _).bind h fun alignmentA => ?_
  refine (s.gateway.moves_burst h _ _ _).bind h fun usersBurst => ?_
  refine (s.gateway.moves_probe h _ _).bind h fun ordersProbe => ?_
  refine (moves_setPhase h _).bind h fun _ => (moves_alignWindow h _).bind h fun alignmentB => ?_
  refine (s.gateway.moves_burst h _ _ _).bind h fun tokenABurst => ?_
  exact (s.gateway.moves_probe h _ _).bind h fun tokenBProbe => moves_pure h _

theorem moves_guarded {x : Harness σ α} (hx : Moves rel x) : Moves rel (guarded x) := by
  have hreport (e : Fault) : Moves rel (reportAbort (σ := σ) e) := by
    unfold reportAbort
    split
    · exact (moves_log h.works _ _ _ _).bind h fun _ => moves_record h.works _
    · exact moves_pure h ()
  have htry : Moves rel (tryCatch x fun e => do reportAbort e; throw e) :=
    hx.tryCatch h fun e => (hreport e).bind h fun _ => moves_throw h e
  exact htry.ensuring h (moves_setPhase h none)

theorem moves_conclude (runId : String) (f : Findings) :
    Moves rel (conclude (σ := σ) runId f) := by
  refine (moves_setPhase h _).bind h fun _ => Moves.bind h ?_ fun _ =>
    (moves_setPhase h _).bind h fun _ => moves_pure h _
  exact Moves.forM h (fun c => (moves_record h.works _).bind h fun _ =>
    moves_log h.works _ _ _ _) _

end Scenario

/-- A run leads where its steps lead. -/
theorem moves_runScenario (settings : Settings) (shared : Bool) (runId : Option String) :
    Moves rel (runScenario w settings shared runId) := by
  refine (moves_ofExcept h _ _).bind h fun aligner => ?_
  split
  case' isTrue => refine (moves_openConnection h.works _).bind h fun _ => ?_
  all_goals
    refine (moves_beginRun h runId).bind h fun id => (moves_log h.works _ _ _ _).bind h fun _ => ?_
    refine Moves.bind h ?_ fun findings => Scenario.moves_conclude h _ _
    exact Scenario.moves_guarded h (Scenario.moves_experiments h _)

end Respects

namespace Harness

/-! ## What an action leaves alone -/

/-- Whatever an action comes to, `view` shows the same of the session that it leaves. -/
def Keeps (view : Session σ → τ) (x : Harness σ α) : Prop :=
  ∀ s, view (x.run.run s).2 = view s

/-- The view shows nothing that a step of a run writes: of the metrics, at most that there are
    some. -/
structure Aside (view : Session σ → τ) : Prop where
  world : ∀ s w, view { s with world := w } = view s
  entries : ∀ s entries, view { s with entries := entries } = view s
  context : ∀ s context, view { s with context := context } = view s
  recorded : ∀ s call, view { s with metrics := s.metrics.map (Metrics.record · call) } = view s
  opened : ∀ s opened, view { s with opened := opened } = view s

theorem aside_printed : Aside (Session.printed : Session σ → String) :=
  ⟨fun _ _ => rfl, fun _ _ => rfl, fun _ _ => rfl, fun _ _ => rfl, fun _ _ => rfl⟩

theorem aside_measured : Aside fun s : Session σ => s.metrics.isSome :=
  ⟨fun _ _ => rfl, fun _ _ => rfl, fun _ _ => rfl, fun _ _ => Option.isSome_map, fun _ _ => rfl⟩

section Keeps

variable {view : Session σ → τ} {x : Harness σ α} {f : α → Harness σ β}

/-- To show the same is a relation that composes. -/
theorem composes_keeps (view : Session σ → τ) : Composes fun s s' => view s' = view s :=
  ⟨fun _ => rfl, fun h h' => h'.trans h⟩

theorem keeps_pure (a : α) : Keeps view (pure a) := moves_pure (composes_keeps view) a

theorem Keeps.bind (hx : Keeps view x) (hf : ∀ a, Keeps view (f a)) : Keeps view (x >>= f) :=
  Moves.bind (composes_keeps view) hx hf

theorem keeps_modify {g : Session σ → Session σ} (hg : ∀ s, view (g s) = view s) :
    Keeps view (modify g : Harness σ Unit) := hg

theorem keeps_ofExcept {ε : Type} (fault : ε → Fault) (r : Except ε α) :
    Keeps view (ofExcept fault r) :=
  moves_ofExcept (composes_keeps view) fault r

theorem Keeps.forM {g : β → Harness σ Unit} (hg : ∀ b, Keeps view (g b)) (l : List β) :
    Keeps view (l.forM g) :=
  Moves.forM (composes_keeps view) hg l

end Keeps

section Aside

variable {view : Session σ → τ} (hv : Aside view)

include hv

/-- Against any outside, the steps of a run keep what is aside. -/
theorem Aside.respects (w : World σ) : Respects (fun s s' => view s' = view s) w where
  toComposes := composes_keeps view
  entries := hv.entries
  context := hv.context
  recorded := hv.recorded
  opened := hv.opened
  readClock s := hv.world s _
  sleep s _ := hv.world s _
  newId s := hv.world s _
  send s _ := hv.world s _

theorem keeps_ask (g : σ → α × σ) : Keeps view (ask g) := fun s => hv.world s _

theorem keeps_notice (text : String) : Keeps view (notice text) :=
  keeps_modify fun s => hv.entries s _

theorem keeps_log (logger : String) (severity : Severity) (event : String)
    (fields : List (String × Json)) : Keeps view (log logger severity event fields) := by
  apply keeps_modify
  intro s
  split
  · exact hv.entries s _
  · rfl

theorem keeps_beginRun (w : World σ) (runId : Option String) : Keeps view (beginRun w runId) :=
  moves_beginRun (hv.respects w) runId

end Aside

end Harness

/-- A run keeps what is aside. -/
theorem keeps_runScenario {view : Session σ → τ} (hv : Harness.Aside view) (w : World σ)
    (settings : Settings) (shared : Bool) (runId : Option String) :
    Harness.Keeps view (runScenario w settings shared runId) :=
  moves_runScenario (hv.respects w) settings shared runId

end RateIsolation
