/-
  Which run and which phase the records of a run carry.

  * `LogEntry.Carries id phase`: an entry is a record of that run in that phase,
    `LogEntry.Tells event`: it is the record of that event; `carries_logRecord` and
    `tells_logRecord` read both off the record of a call;
  * `Session.Adds P`: the context is kept, and what is added to the log is as `P`
    says in that context; `works_adds`: within a phase a run adds records in its
    context and nothing else;
  * `Stage` are the steps of the experiments in order (`Scenario.stages`), `Walk`
    is how far a run came in them and what each step wrote:
    `Scenario.experiments_walk`;
  * `Scenario.run_correlated`: what a run writes is its start, what its steps
    write, each in its phase, and the checks or the abort; it leaves no phase.
-/
import RateIsolation.Proofs.FatalLogin
import RateIsolation.Proofs.Frame
import RateIsolation.Proofs.Tagging

namespace RateIsolation

open Harness

variable {σ α β : Type}

/-! ## Records -/

/-- A field of a record. -/
def LogEntry.field? (name : String) : LogEntry → Option Json
  | .record fields => Table.get? name fields
  | .notice _ => none

/-- A record of a run in a phase, or in none. -/
def LogEntry.Carries (id : String) (phase : Option String) (e : LogEntry) : Prop :=
  e.field? "run_id" = some (.text id) ∧ e.field? "phase" = phase.map .text

/-- The record of an event. -/
def LogEntry.Tells (event : String) (e : LogEntry) : Prop := e.field? "event" = some (.text event)

section Records

variable {id : String} {stamp logger event : String} {severity : Severity}
  {fields : List (String × Json)}

/-- The caller of a logger has no say in the event, the logger, the level and the time. -/
theorem tells_logRecord (c : LogContext) :
    LogEntry.Tells event (.record (logRecord stamp c logger severity event fields)) := by
  have htags := tags_logRecord c stamp logger event severity fields
  refine (htags.get?_of_not_tag rfl).trans ?_
  rw [Table.ofList, List.foldl_append]
  simp [List.foldl]

theorem field?_runId_logRecord {c : LogContext} (hrun : c.runId = some id) (hid : id ≠ "") :
    LogEntry.field? "run_id" (.record (logRecord stamp c logger severity event fields)) =
      some (.text id) := by
  refine (tags_logRecord c stamp logger event severity fields).run.trans ?_
  rw [hrun, Fields.shown_of_ne hid]
  rfl

/-- A record in a phase carries it, whatever the fields of the caller are. -/
theorem carries_logRecord {c : LogContext} {phase : String} (hrun : c.runId = some id)
    (hid : id ≠ "") (hphase : c.phase = some phase) (hne : phase ≠ "") :
    LogEntry.Carries id (some phase)
      (.record (logRecord stamp c logger severity event fields)) := by
  refine ⟨field?_runId_logRecord hrun hid, ?_⟩
  refine (tags_logRecord c stamp logger event severity fields).phase.trans ?_
  rw [hphase, Fields.shown_of_ne hne]
  rfl

/-- A record outside of the phases has none, unless it is among the fields of the caller. -/
theorem carries_logRecord_none {c : LogContext} (hrun : c.runId = some id) (hid : id ≠ "")
    (hphase : c.phase = none) (hfields : ∀ f ∈ fields, f.1 ≠ "phase") :
    LogEntry.Carries id none (.record (logRecord stamp c logger severity event fields)) := by
  refine ⟨field?_runId_logRecord hrun hid, ?_⟩
  refine (tags_logRecord c stamp logger event severity fields).phase.trans ?_
  rw [hphase]
  refine Table.get?_foldl_set_of_ne _ ?_ []
  refine List.forall_mem_append.2 ⟨hfields, ?_⟩
  simp

end Records

/-! ## What is added to the log -/

/-- The context is the same, and what was added to the log is as told of that context. -/
def Session.Adds (P : LogContext → LogEntry → Prop) (s s' : Session σ) : Prop :=
  s'.context = s.context ∧ ∃ added, s'.entries = s.entries ++ added ∧ ∀ e ∈ added, P s.context e

/-- The record of a call of a logger. -/
def LogEntry.Written (c : LogContext) (e : LogEntry) : Prop :=
  ∃ stamp logger severity event fields, e = .record (logRecord stamp c logger severity event fields)

/-- The record of a call for some event. -/
def LogEntry.WrittenOf (event : String) (c : LogContext) (e : LogEntry) : Prop :=
  ∃ stamp logger severity fields, e = .record (logRecord stamp c logger severity event fields)

theorem LogEntry.Written.carries {c : LogContext} {e : LogEntry} {id phase : String}
    (h : e.Written c) (hrun : c.runId = some id) (hid : id ≠ "") (hphase : c.phase = some phase)
    (hne : phase ≠ "") : e.Carries id (some phase) := by
  obtain ⟨stamp, logger, severity, event, fields, rfl⟩ := h
  exact carries_logRecord hrun hid hphase hne

theorem LogEntry.WrittenOf.carries {c : LogContext} {e : LogEntry} {event id phase : String}
    (h : e.WrittenOf event c) (hrun : c.runId = some id) (hid : id ≠ "")
    (hphase : c.phase = some phase) (hne : phase ≠ "") :
    e.Carries id (some phase) ∧ e.Tells event := by
  obtain ⟨stamp, logger, severity, fields, rfl⟩ := h
  exact ⟨carries_logRecord hrun hid hphase hne, tells_logRecord c⟩

namespace Harness

variable {P : LogContext → LogEntry → Prop}

theorem adds_self {s s' : Session σ} (hcontext : s'.context = s.context)
    (hentries : s'.entries = s.entries) : s.Adds P s' :=
  ⟨hcontext, [], by rw [hentries, List.append_nil], fun _ h => absurd h List.not_mem_nil⟩

theorem composes_adds (P : LogContext → LogEntry → Prop) :
    Composes (Session.Adds (σ := σ) P) := by
  refine ⟨fun s => adds_self rfl rfl, ?_⟩
  rintro s₁ s₂ s₃ ⟨hcontext, added, hadded, hP⟩ ⟨hcontext', added', hadded', hP'⟩
  refine ⟨hcontext'.trans hcontext, added ++ added', ?_, List.forall_mem_append.2 ⟨hP, ?_⟩⟩
  · rw [hadded', hadded, List.append_assoc]
  · rw [← hcontext]
    exact hP'

/-- A logger writes its record or nothing. -/
theorem log_run (logger : String) (severity : Severity) (event : String)
    (fields : List (String × Json)) (s : Session σ) :
    ∃ added, (log (σ := σ) logger severity event fields).run.run s =
        (.ok (), { s with entries := s.entries ++ added }) ∧
      ∀ e ∈ added, e = .record (logRecord s.logging.stamp s.context logger severity event fields) := by
  refine ⟨s.records [⟨logger, severity, event, fields⟩], run_log s logger severity event fields,
    fun e he => ?_⟩
  obtain ⟨n, hn, rfl⟩ := List.mem_map.1 he
  rw [List.mem_singleton.1 (List.mem_of_mem_filter hn)]

theorem adds_log {logger event : String} {severity : Severity} {fields : List (String × Json)}
    (hP : ∀ stamp c, P c (.record (logRecord stamp c logger severity event fields))) :
    Moves (Session.Adds P) (log (σ := σ) logger severity event fields) := by
  intro s
  obtain ⟨added, hrun, hadded⟩ := log_run logger severity event fields s
  rw [hrun]
  exact ⟨rfl, added, rfl, fun e he => hadded e he ▸ hP _ _⟩

/-- Whatever is done within a phase adds records in its context and nothing else. -/
theorem works_adds (w : World σ) : Works (Session.Adds LogEntry.Written) w where
  toComposes := composes_adds _
  logged _ _ _ _ := adds_log fun _ _ => ⟨_, _, _, _, _, rfl⟩
  recorded _ _ := adds_self rfl rfl
  opened _ _ := adds_self rfl rfl
  readClock _ := adds_self rfl rfl
  sleep _ _ := adds_self rfl rfl
  newId _ := adds_self rfl rfl
  send _ _ := adds_self rfl rfl

end Harness

/-! ## The steps of the experiments -/

/-- The two experiments of a run. -/
inductive Trial where
  | a
  | b

/-- The phase of an experiment. -/
def Trial.phase : Trial → String
  | a => "experiment_a"
  | b => "experiment_b"

/-- A step of the experiments, with the credential that it gets or uses. -/
inductive Stage where
  | login (i : Identity) (c : Credential)
  | align (x : Trial)
  | burst (x : Trial) (t : Target) (c : Credential)
  | probe (x : Trial) (t : Target) (c : Credential)

/-- The phase of a step. -/
def Stage.phase : Stage → String
  | login _ _ => "login"
  | align x | burst x _ _ | probe x _ _ => x.phase

theorem Trial.phase_ne_empty (x : Trial) : x.phase ≠ "" := by cases x <;> decide

theorem Stage.phase_ne_empty (stage : Stage) : stage.phase ≠ "" := by
  cases stage with
  | login i c => exact (by decide : "login" ≠ "")
  | align x | burst x | probe x => exact x.phase_ne_empty

namespace Scenario

/-- The steps of one experiment. -/
def trialStages (sc : Scenario) (x : Trial) (c : Credential) (t : Target) (c' : Credential) :
    List Stage :=
  [.align x, .burst x sc.users c, .probe x t c']

/-- The steps of the experiments, given the credentials of both callers. -/
def stages (sc : Scenario) (cA cB : Credential) : List Stage :=
  [.login sc.callerA cA, .login sc.callerB cB] ++
    (sc.trialStages .a cA sc.orders cA ++ sc.trialStages .b cA sc.users cB)

end Scenario

/-- An action came to this end, whatever the value is that it gave. -/
def Harness.Came (x : Harness σ α) (s : Session σ) (r : Except Fault Unit) (s' : Session σ) :
    Prop :=
  (x.run.run s).1.map (fun _ => ()) = r ∧ (x.run.run s).2 = s'

section Walk

variable (w : World σ) (sc : Scenario)

/-- What a step comes to, and the session that it leaves. -/
def Stage.Leads (stage : Stage) (s : Session σ) (r : Except Fault Unit) (s' : Session σ) : Prop :=
  match stage with
  | login i c => (sc.auth.acquire w i).run.run s = (r.map fun _ => c, s')
  | align _ => Came (Scenario.alignWindow w sc.aligner) s r s'
  | burst _ t c => Came (sc.gateway.burst w t c sc.burstRequests) s r s'
  | probe _ t c => Came (sc.gateway.probe w t c) s r s'

/-- A step that was begun, and what it wrote to the log. -/
structure Leg where
  stage : Stage
  written : List LogEntry

/-- Steps in order, each in its phase, up to the first that fails. -/
inductive Walk : List Stage → Session σ → Except Fault Unit → List Leg → Session σ → Prop
  | done {s : Session σ} : Walk [] s (.ok ()) [] s
  | next {stage : Stage} {stages : List Stage} {s s₁ s' : Session σ} {r : Except Fault Unit}
    {written : List LogEntry} {legs : List Leg}
    (h : stage.Leads w sc (s.inPhase (some stage.phase)) (.ok ()) s₁)
    (hwritten : s₁.entries = s.entries ++ written) (hrest : Walk stages s₁ r legs s') :
    Walk (stage :: stages) s r (⟨stage, written⟩ :: legs) s'
  | stop {stage : Stage} {stages : List Stage} {s s' : Session σ} {fault : Fault}
    {written : List LogEntry}
    (h : stage.Leads w sc (s.inPhase (some stage.phase)) (.error fault) s')
    (hwritten : s'.entries = s.entries ++ written) :
    Walk (stage :: stages) s (.error fault) [⟨stage, written⟩] s'

variable {w sc} {stage : Stage} {stages : List Stage} {s s' : Session σ} {r : Except Fault Unit}
  {fault : Fault} {legs : List Leg} {id : String}

/-- A step adds records in its context and nothing else. -/
theorem Stage.Leads.adds (h : stage.Leads w sc s r s') : s.Adds LogEntry.Written s' := by
  cases stage with
  | login i c =>
    have hmoves := sc.auth.moves_acquire (works_adds w) i s
    rwa [show (sc.auth.acquire w i).run.run s = _ from h] at hmoves
  | align x => exact h.2 ▸ Scenario.moves_alignWindow (works_adds w) sc.aligner s
  | burst x t c => exact h.2 ▸ sc.gateway.moves_burst (works_adds w) t c sc.burstRequests s
  | probe x t c => exact h.2 ▸ sc.gateway.moves_probe (works_adds w) t c s

/-- In a run, a step in its phase leaves the run and the phase, and writes records of both. -/
theorem Stage.Leads.carries {written : List LogEntry}
    (h : stage.Leads w sc (s.inPhase (some stage.phase)) r s') (hrun : s.context.runId = some id)
    (hid : id ≠ "") (hwritten : s'.entries = s.entries ++ written) :
    s'.context = { runId := some id, phase := some stage.phase } ∧
      ∀ e ∈ written, e.Carries id (some stage.phase) := by
  obtain ⟨hcontext, added, hadded, hall⟩ := h.adds
  have hentries : s.entries ++ written = s.entries ++ added := hwritten.symm.trans hadded
  cases List.append_cancel_left hentries
  constructor
  · rw [hcontext, ← hrun]
    rfl
  · intro e he
    exact (hall e he).carries hrun hid rfl stage.phase_ne_empty

namespace Walk

/-- What the steps wrote is all that was added to the log. -/
theorem entries (h : Walk w sc stages s r legs s') :
    s'.entries = s.entries ++ legs.flatMap Leg.written := by
  induction h with
  | done => rw [List.flatMap_nil, List.append_nil]
  | next h hwritten hrest ih =>
    rw [ih, hwritten, List.flatMap_cons, List.append_assoc]
  | stop h hwritten => rw [hwritten, List.flatMap_singleton]

/-- The records of each step carry the run and the phase of that step. -/
theorem carries (h : Walk w sc stages s r legs s') (hrun : s.context.runId = some id)
    (hid : id ≠ "") :
    s'.context.runId = some id ∧
      ∀ leg ∈ legs, ∀ e ∈ leg.written, e.Carries id (some leg.stage.phase) := by
  induction h with
  | done => exact ⟨hrun, fun _ h => absurd h List.not_mem_nil⟩
  | next h hwritten hrest ih =>
    obtain ⟨hcontext, hall⟩ := h.carries hrun hid hwritten
    obtain ⟨hrun', hlegs⟩ := ih (by rw [hcontext])
    exact ⟨hrun', List.forall_mem_cons.2 ⟨hall, hlegs⟩⟩
  | stop h hwritten =>
    obtain ⟨hcontext, hall⟩ := h.carries hrun hid hwritten
    exact ⟨by rw [hcontext], List.forall_mem_singleton.2 hall⟩

/-- Where no step fails, all of them are done. -/
theorem stages_of_ok (h : Walk w sc stages s (.ok ()) legs s') :
    legs.map Leg.stage = stages := by
  generalize hr : (.ok () : Except Fault Unit) = r at h
  induction h with
  | done => rfl
  | next h hwritten hrest ih => rw [List.map_cons, ih hr]
  | stop => cases hr

/-- Where a step fails, it is the last that was begun, and its phase is left. -/
theorem last_of_error (h : Walk w sc stages s (.error fault) legs s') :
    ∃ done last before, legs = done ++ [last] ∧ legs.map Leg.stage <+: stages ∧
      last.stage.Leads w sc before (.error fault) s' ∧
      s'.context.phase = some last.stage.phase := by
  generalize hr : (.error fault : Except Fault Unit) = r at h
  induction h with
  | done => cases hr
  | @next stage _ _ _ _ _ written _ h hwritten hrest ih =>
    obtain ⟨done, last, before, rfl, hprefix, hfailed, hphase⟩ := ih hr
    exact ⟨⟨stage, written⟩ :: done, last, before, rfl,
      List.cons_prefix_cons.2 ⟨rfl, hprefix⟩, hfailed, hphase⟩
  | @stop stage stages _ _ _ written h hwritten =>
    cases hr
    refine ⟨[], ⟨stage, written⟩, _, rfl, List.cons_prefix_cons.2 ⟨rfl, List.nil_prefix⟩, h, ?_⟩
    rw [h.adds.1]
    rfl

theorem exists_next {s₁ : Session σ} {written : List LogEntry}
    (h : stage.Leads w sc (s.inPhase (some stage.phase)) (.ok ()) s₁)
    (hwritten : s₁.entries = s.entries ++ written) (hrest : ∃ legs, Walk w sc stages s₁ r legs s') :
    ∃ legs, Walk w sc (stage :: stages) s r legs s' := by
  obtain ⟨legs, hrest⟩ := hrest
  exact ⟨_, .next h hwritten hrest⟩

/-- The phase that is set before the first step does not matter. -/
theorem of_inPhase {phase : Option String}
    (h : Walk w sc (stage :: stages) (s.inPhase phase) r legs s') :
    Walk w sc (stage :: stages) s r legs s' := by
  cases h with
  | next h hwritten hrest => exact .next h hwritten hrest
  | stop h hwritten => exact .stop h hwritten

end Walk

end Walk

/-! ## The experiments as a walk -/

/-- Started in a phase, an action walks through these steps. -/
def Walks (w : World σ) (sc : Scenario) (phase : String) (stages : List Stage)
    (x : Harness σ α) : Prop :=
  ∀ s : Session σ, s.context.phase = some phase →
    ∃ legs, Walk w sc stages s ((x.run.run s).1.map fun _ => ()) legs (x.run.run s).2

section Walks

variable {w : World σ} {sc : Scenario} {phase : String} {stage : Stage} {stages : List Stage}

theorem walks_pure (a : α) : Walks w sc phase [] (pure a : Harness σ α) := fun _ _ => ⟨[], .done⟩

theorem Session.inPhase_self {s : Session σ} {phase : Option String} (h : s.context.phase = phase) :
    s.inPhase phase = s := by
  rw [← h]
  rfl

/-- A step of the phase, and then whatever is done with its result. -/
theorem Walks.bind {x : Harness σ α} {f : α → Harness σ β} (hphase : stage.phase = phase)
    (hx : ∀ s r s', Came x s r s' → stage.Leads w sc s r s')
    (hf : ∀ a, Walks w sc phase stages (f a)) : Walks w sc phase (stage :: stages) (x >>= f) := by
  subst hphase
  intro s hs
  have hleads := hx s _ _ ⟨rfl, rfl⟩
  obtain ⟨hcontext, written, hwritten, -⟩ := hleads.adds
  rw [run_bind]
  rcases hrun : x.run.run s with ⟨e | a, s₁⟩ <;> rw [hrun] at hleads hcontext hwritten <;>
    rw [← Session.inPhase_self hs] at hleads
  · exact ⟨_, .stop hleads hwritten⟩
  · exact Walk.exists_next hleads hwritten (hf a s₁ ((congrArg LogContext.phase hcontext).trans hs))

/-- The next step is in a phase of its own. -/
theorem Walks.setPhase {phase' : String} {x : Harness σ α}
    (h : Walks w sc phase' (stage :: stages) x) :
    Walks w sc phase (stage :: stages) (do Harness.setPhase (some phase'); x) := by
  intro s _
  obtain ⟨legs, hwalk⟩ := h (s.inPhase (some phase')) rfl
  exact ⟨legs, hwalk.of_inPhase⟩

/-- In its phase, a login fails, or gives a credential and stays in that phase. -/
theorem login_cases (w : World σ) (sc : Scenario) (i : Identity) {s : Session σ}
    (hs : s.context.phase = some "login") :
    (∃ e s' written, (sc.auth.acquire w i).run.run s = (.error e, s') ∧
      (∀ c, (Stage.login i c).Leads w sc (s.inPhase (some "login")) (.error e) s') ∧
      s'.entries = s.entries ++ written) ∨
    (∃ c s' written, (sc.auth.acquire w i).run.run s = (.ok c, s') ∧
      (Stage.login i c).Leads w sc (s.inPhase (some "login")) (.ok ()) s' ∧
      s'.entries = s.entries ++ written ∧ s'.context.phase = some "login") := by
  obtain ⟨hcontext, written, hwritten, -⟩ := sc.auth.moves_acquire (works_adds w) i s
  rw [Session.inPhase_self hs]
  rcases hrun : (sc.auth.acquire w i).run.run s with ⟨e | c, s'⟩ <;>
    rw [hrun] at hcontext hwritten
  · exact Or.inl ⟨e, s', written, rfl, fun _ => hrun, hwritten⟩
  · exact Or.inr ⟨c, s', written, rfl, hrun, hwritten,
      (congrArg LogContext.phase hcontext).trans hs⟩

/-- The experiments are a walk through their steps. -/
theorem Scenario.experiments_walk (w : World σ) (sc : Scenario) (s : Session σ) :
    ∃ cA cB legs, Walk w sc (sc.stages cA cB) s
      (((sc.experiments w).run.run s).1.map fun _ => ()) legs ((sc.experiments w).run.run s).2 := by
  have hset : (setPhase (some "login")).run.run s = (.ok (), s.inPhase (some "login")) := rfl
  -- where a login fails there is no credential, and none is used
  let nobody : Credential := ⟨"", "", ""⟩
  rw [experiments, run_bind_of_ok hset]
  rcases login_cases w sc sc.callerA (rfl : (s.inPhase (some "login")).context.phase = _) with
    ⟨e, sA, _, hA, hleadsA, hwrittenA⟩ | ⟨cA, sA, _, hA, hleadsA, hwrittenA, hphaseA⟩
  · rw [run_bind_of_error hA]
    exact ⟨nobody, nobody, _, .stop (hleadsA nobody) hwrittenA⟩
  rw [run_bind_of_ok hA]
  rcases login_cases w sc sc.callerB hphaseA with
    ⟨e, sB, _, hB, hleadsB, hwrittenB⟩ | ⟨cB, sB, _, hB, hleadsB, hwrittenB, hphaseB⟩
  · rw [run_bind_of_error hB]
    exact ⟨cA, nobody, _, .next hleadsA hwrittenA (.stop (hleadsB nobody) hwrittenB)⟩
  rw [run_bind_of_ok hB]
  refine ⟨cA, cB, Walk.exists_next hleadsA hwrittenA (Walk.exists_next hleadsB hwrittenB ?_)⟩
  refine Walks.setPhase ?_ sB hphaseB
  refine .bind rfl (fun _ _ _ h => h) fun _ => .bind rfl (fun _ _ _ h => h) fun _ => ?_
  refine .bind rfl (fun _ _ _ h => h) fun _ => Walks.setPhase ?_
  refine .bind rfl (fun _ _ _ h => h) fun _ => .bind rfl (fun _ _ _ h => h) fun _ => ?_
  exact .bind rfl (fun _ _ _ h => h) fun _ => walks_pure _

end Walks

/-! ## Whole runs -/

/-- The session of a run that has begun, with what its start wrote to the log. -/
def Session.started (s : Session σ) (w : World σ) (runId : Option String)
    (written : List LogEntry) : Session σ :=
  { s with
    world := (w.startRun runId s.world).2
    context := { runId := some (w.startRun runId s.world).1, phase := none }
    entries := s.entries ++ written }

/-- From a session in a phase to one in none, only records of an event in that phase are written. -/
structure Closes (event id phase : String) (s s' : Session σ) (written : List LogEntry) : Prop where
  entries : s'.entries = s.entries ++ written
  context : s'.context = { runId := some id, phase := none }
  told : ∀ e ∈ written, e.Carries id (some phase) ∧ e.Tells event

theorem Session.Adds.closes {s s' : Session σ} {event id phase : String}
    (h : s.Adds (LogEntry.WrittenOf event) s')
    (hcontext : s.context = { runId := some id, phase := some phase }) (hid : id ≠ "")
    (hne : phase ≠ "") : ∃ written, Closes event id phase s (s'.inPhase none) written := by
  obtain ⟨hkept, written, hwritten, hall⟩ := h
  refine ⟨written, hwritten, ?_, fun e he => ?_⟩
  · have hrun : s'.context.runId = some id := by rw [hkept, hcontext]
    rw [← hrun]
    rfl
  · exact (hall e he).carries (congrArg LogContext.runId hcontext) hid
      (congrArg LogContext.phase hcontext) hne

namespace Scenario

variable {w : World σ} {s s' : Session σ} {fault : Fault} {id : String}

/-- A run begins with its id and tells that it started. -/
theorem run_start (sc : Scenario) {runId : Option String} (hphase : s.context.phase = none)
    (hid : (w.startRun runId s.world).1 ≠ "") :
    ∃ started, (∀ e ∈ started,
        e.Carries (w.startRun runId s.world).1 none ∧ e.Tells "Scenario started") ∧
      (sc.run w runId).run.run s =
        (do conclude (w.startRun runId s.world).1 (← guarded (sc.experiments w))).run.run
          (s.started w runId started) := by
  let begun : Session σ :=
    { s with world := (w.startRun runId s.world).2
             context := { runId := some (w.startRun runId s.world).1, phase := s.context.phase } }
  have hbegin : (beginRun w runId).run.run s = (.ok (w.startRun runId s.world).1, begun) :=
    beginRun_run w runId s
  obtain ⟨started, hlog, hstarted⟩ := log_run logger .info "Scenario started"
    [("burst_requests", .int sc.burstRequests), ("window_ms", .int sc.aligner.window),
      ("api_base_url", .text sc.apiBaseUrl)] begun
  refine ⟨started, fun e he => ?_, ?_⟩
  · rw [hstarted e he]
    exact ⟨carries_logRecord_none rfl hid hphase (by simp), tells_logRecord _⟩
  · rw [run, run_bind_of_ok hbegin, run_bind_of_ok hlog, Session.started, ← hphase]

/-- Steps that come to their end leave no phase. -/
theorem guarded_of_ok {x : Harness σ α} {a : α} (hx : x.run.run s = (.ok a, s')) :
    (guarded x).run.run s = (.ok a, s'.inPhase none) := by
  rw [guarded, run_ensuring, run_tryCatch, hx]
  rfl

/-- Steps that fail leave no phase either, and the abort is told in the phase of the failure. -/
theorem guarded_of_error {x : Harness σ α} (hx : x.run.run s = (.error fault, s')) {phase : String}
    (hcontext : s'.context = { runId := some id, phase := some phase }) (hid : id ≠ "")
    (hne : phase ≠ "") :
    ∃ s'' written, (guarded x).run.run s = (.error fault, s'') ∧
      Closes "Scenario aborted" id phase s' s'' written := by
  have hadds : Moves (Session.Adds (LogEntry.WrittenOf "Scenario aborted"))
      (reportAbort (σ := σ) fault) := by
    unfold reportAbort
    split
    · refine Moves.bind (composes_adds _) (adds_log fun _ _ => ⟨_, _, _, _, rfl⟩) fun _ => ?_
      exact fun s => adds_self rfl rfl
    · exact moves_pure (composes_adds _) ()
  have hs'' := hadds s'
  obtain ⟨s'', hreport, -⟩ := reportAbort_leads fault s'.world s' rfl
  rw [hreport] at hs''
  obtain ⟨written, hcloses⟩ := hs''.closes hcontext hid hne
  refine ⟨s''.inPhase none, written, ?_, hcloses⟩
  rw [guarded, run_ensuring, run_tryCatch, hx]
  dsimp only
  rw [run_bind_of_ok hreport]
  rfl

/-- The checks are told in a phase of their own. -/
theorem conclude_closes (f : Findings) (hrun : s.context.runId = some id) (hid : id ≠ "") :
    ∃ s' written, (conclude id f).run.run s = (.ok (f.result id), s') ∧
      Closes "Check evaluated" id "checks" (s.inPhase (some "checks")) s' written := by
  let checks := Check.evaluate f.usersBurst f.ordersProbe f.tokenABurst f.tokenBProbe
  have hadds : Moves (Session.Adds (LogEntry.WrittenOf "Check evaluated"))
      (checks.forM (reportCheck (σ := σ))) := by
    refine Moves.forM (composes_adds _) (fun c => ?_) checks
    refine Moves.bind (composes_adds _) (fun s => adds_self rfl rfl) fun _ => ?_
    exact adds_log fun _ _ => ⟨_, _, _, _, rfl⟩
  have hs' := hadds (s.inPhase (some "checks"))
  obtain ⟨s', hreport, -⟩ := reportChecks_leads checks s.world (s.inPhase (some "checks")) rfl
  rw [hreport] at hs'
  have hcontext : (s.inPhase (some "checks")).context =
      { runId := some id, phase := some "checks" } := by
    rw [← hrun]
    rfl
  obtain ⟨written, hcloses⟩ := hs'.closes hcontext hid (by decide)
  refine ⟨s'.inPhase none, written, ?_, hcloses⟩
  have hset : (setPhase (some "checks")).run.run s = (.ok (), s.inPhase (some "checks")) := rfl
  rw [conclude, run_bind_of_ok hset, run_bind_of_ok hreport]
  rfl

end Scenario

/-- What a run wrote to the log, by who wrote it. -/
structure RunLog where
  started : List LogEntry
  /-- The steps of the experiments that were begun. -/
  legs : List Leg
  /-- The checks, or the abort. -/
  closing : List LogEntry

/-- All that a run wrote to the log. -/
def RunLog.entries (log : RunLog) : List LogEntry :=
  log.started ++ log.legs.flatMap Leg.written ++ log.closing

/-- A run under `id` on the session `s` that ended in `r` and left the session `s'` wrote this
    log. -/
structure Correlated (w : World σ) (sc : Scenario) (runId : Option String) (id : String)
    (s : Session σ) (r : Except Fault RunResult) (s' : Session σ) (log : RunLog) : Prop where
  entries : s'.entries = s.entries ++ log.entries
  named : ∀ e ∈ log.entries, e.field? "run_id" = some (.text id)
  started : ∀ e ∈ log.started, e.Carries id none ∧ e.Tells "Scenario started"
  -- the logins, alignments, bursts and probes, up to the first that failed
  walk : ∃ cA cB s₁, Walk w sc (sc.stages cA cB) (s.started w runId log.started)
    (r.map fun _ => ()) log.legs s₁ ∧ log.legs.map Leg.stage <+: sc.stages cA cB
  legs : ∀ leg ∈ log.legs, ∀ e ∈ leg.written, e.Carries id (some leg.stage.phase)
  checks : ∀ result, r = .ok result →
    ∀ e ∈ log.closing, e.Carries id (some "checks") ∧ e.Tells "Check evaluated"
  aborted : ∀ fault, r = .error fault → ∃ done last before after,
    log.legs = done ++ [last] ∧ last.stage.Leads w sc before (.error fault) after ∧
      ∀ e ∈ log.closing, e.Carries id (some last.stage.phase) ∧ e.Tells "Scenario aborted"
  context : s'.context = { runId := some id, phase := none }

/-- All records of a run carry it, if those of its parts do. -/
theorem RunLog.named {log : RunLog} {id : String} {phase : Option String}
    (hstarted : ∀ e ∈ log.started, e.Carries id none)
    (hlegs : ∀ leg ∈ log.legs, ∀ e ∈ leg.written, e.Carries id (some leg.stage.phase))
    (hclosing : ∀ e ∈ log.closing, e.Carries id phase) :
    ∀ e ∈ log.entries, e.field? "run_id" = some (.text id) := by
  intro e he
  rw [RunLog.entries, List.mem_append, List.mem_append, List.mem_flatMap] at he
  rcases he with (he | ⟨leg, hleg, he⟩) | he
  · exact (hstarted e he).1
  · exact (hlegs leg hleg e he).1
  · exact (hclosing e he).1

/-- **Every record of a run carries the run, and the phase of the step that wrote it.**  Whatever the
    outside does and however the run ends: the start is told in no phase, what a login, an alignment,
    a burst or a probe writes is told in the phase of that step, the checks in theirs, and the abort
    in the phase of the step that failed; the run keeps its id and leaves no phase. -/
theorem Scenario.run_correlated (w : World σ) (sc : Scenario) {runId : Option String}
    {s : Session σ} (hphase : s.context.phase = none)
    (hid : (w.startRun runId s.world).1 ≠ "") :
    ∃ r s' log, (sc.run w runId).run.run s = (r, s') ∧
      Correlated w sc runId (w.startRun runId s.world).1 s r s' log := by
  obtain ⟨started, hstarted, hrun⟩ := sc.run_start hphase hid
  obtain ⟨cA, cB, legs, hwalk⟩ := experiments_walk w sc (s.started w runId started)
  obtain ⟨hrunId, hlegs⟩ := hwalk.carries rfl hid
  have hentries := hwalk.entries
  rcases hx : (sc.experiments w).run.run (s.started w runId started) with ⟨fault | f, s₁⟩ <;>
    rw [hx] at hwalk hrunId hentries
  · obtain ⟨done, last, before, hdone, hprefix, hlast, hphase₁⟩ := hwalk.last_of_error
    have hcontext : s₁.context =
        { runId := some (w.startRun runId s.world).1, phase := some last.stage.phase } := by
      rw [← hrunId, ← hphase₁]
    obtain ⟨s₂, closing, hguarded, hcloses⟩ :=
      guarded_of_error hx hcontext hid last.stage.phase_ne_empty
    rw [run_bind_of_error hguarded] at hrun
    refine ⟨_, s₂, ⟨started, legs, closing⟩, hrun, ?_, ?_, hstarted, ⟨cA, cB, s₁, hwalk, hprefix⟩,
      hlegs, fun _ h => (nomatch h), ?_, hcloses.context⟩
    · rw [hcloses.entries, hentries]
      simp only [RunLog.entries, Session.started, List.append_assoc]
    · exact RunLog.named (fun e he => (hstarted e he).1) hlegs fun e he => (hcloses.told e he).1
    · rintro _ ⟨⟩
      exact ⟨done, last, before, s₁, hdone, hlast, hcloses.told⟩
  · obtain ⟨s₂, closing, hconclude, hcloses⟩ :=
      conclude_closes (s := s₁.inPhase none) f hrunId hid
    rw [run_bind_of_ok (guarded_of_ok hx), hconclude] at hrun
    refine ⟨_, s₂, ⟨started, legs, closing⟩, hrun, ?_, ?_, hstarted, ⟨cA, cB, s₁, hwalk, ?_⟩, hlegs,
      fun _ _ => hcloses.told, fun _ h => (nomatch h), hcloses.context⟩
    · rw [hcloses.entries]
      show s₁.entries ++ closing = _
      rw [hentries]
      simp only [RunLog.entries, Session.started, List.append_assoc]
    · exact RunLog.named (fun e he => (hstarted e he).1) hlegs fun e he => (hcloses.told e he).1
    · rw [hwalk.stages_of_ok]

theorem Scenario.run_correlated_default :
    ({ world := 0 } : Session Nat).context.phase = none ∧ "run-1" ≠ "" ∧
    ∃ r s' log, ((Settings.ofWindow 1000).scenario.run World.serving (some "run-1")).run.run
        { world := 0 } = (r, s') ∧
      Correlated World.serving (Settings.ofWindow 1000).scenario (some "run-1") "run-1"
        { world := 0 } r s' log :=
  ⟨rfl, by decide, @run_correlated _ World.serving (Settings.ofWindow 1000).scenario (some "run-1")
    { world := 0 } rfl (by decide)⟩

end RateIsolation
