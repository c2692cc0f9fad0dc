/-
  What a run can do, step by step, whatever the outside does.

  After the logins a run is a list of tasks, waits and calls of routes, which
  are done in order up to the first one that fails.

  * `Task.Done` and `Task.Stopped` are the steps of one task, `Performs` those
    of a list of them; `Performs.append` and `Performs.stopped_append` put lists
    together;
  * `LoginService.Attempts` are the steps of a login, `Scenario.Conducts` those
    of the experiments: `Scenario.does_experiments`;
  * `does_runScenario`: a run takes an id, does what its experiments do, and
    writes into the metrics what came of them.
-/
import RateIsolation.Proofs.Trace

namespace RateIsolation

open Harness

variable {σ α β : Type}

/-! ## Tasks -/

/-- What there is to do after the logins. -/
inductive Task where
  /-- Wait for a window. -/
  | wait
  /-- Call a route and count the outcome. -/
  | call (t : Target) (c : Credential)

/-- The alignment from a reading of the clock on. -/
def Aligner.alignmentAt (a : Aligner) (now : Int) : Alignment :=
  ⟨now, a.window, a.margin, a.waitAt now⟩

section Tasks

variable (a : Aligner) (g : GatewayClient)

/-- The steps of a task that is done, and what it writes into the metrics. -/
inductive Task.Done : Task → List Step → List Recording → Prop
  | wait {now : Int} {seconds : Binary64}
    (hseconds : secondsOfMillis (a.waitAt now) = some seconds) :
    Done .wait [.readClock now, .slept (.binary seconds) (.ok ())] [.alignment seconds]
  | call {t : Target} {c : Credential} {id : String} {request : Request} {exchange : Exchange}
    (hbuild : g.build t c id = .ok request) (hreply : Reply.Answered exchange.reply) :
    Done (.call t c) [.newId id, .sent request exchange]
      [.request t.name c.name (Outcome.ofStatus (Call.mk request exchange.reply).status).name]

/-- The steps of a task that fails, which writes nothing into the metrics. -/
inductive Task.Stopped : Task → Fault → List Step → Prop
  | overflow {now : Int} (h : secondsOfMillis (a.waitAt now) = none) :
    Stopped .wait .secondsOverflow [.readClock now]
  | sleep {now : Int} {time : Seconds} {f : SleepFault} :
    Stopped .wait (.sleep f) [.readClock now, .slept time (.error f)]
  | unbuilt {t : Target} {c : Credential} {id : String} {fault : Fault}
    (hbuild : g.build t c id = .error fault) : Stopped (.call t c) fault [.newId id]
  | broken {t : Target} {c : Credential} {id : String} {request : Request} {exchange : Exchange}
    {f : SendFault} (hbuild : g.build t c id = .ok request) (hreply : exchange.reply = .error f)
    (hf : ¬ Reply.Answered exchange.reply) :
    Stopped (.call t c) (.send f) [.newId id, .sent request exchange]

/-- Tasks in order, up to the first that fails. -/
inductive Performs : List Task → Except Fault Unit → List Step → List Recording → Prop
  | done : Performs [] (.ok ()) [] []
  | next {task : Task} {tasks : List Task} {r : Except Fault Unit} {steps steps' : List Step}
    {calls calls' : List Recording} (h : task.Done a g steps calls)
    (hrest : Performs tasks r steps' calls') :
    Performs (task :: tasks) r (steps ++ steps') (calls ++ calls')
  | stop {task : Task} {tasks : List Task} {fault : Fault} {steps : List Step}
    (h : task.Stopped a g fault steps) : Performs (task :: tasks) (.error fault) steps []

variable {a g} {tasks tasks' : List Task} {r : Except Fault Unit} {fault : Fault}
  {steps steps' : List Step} {calls calls' : List Recording}

theorem Task.Done.performs {task : Task} (h : task.Done a g steps calls) :
    Performs a g [task] (.ok ()) steps calls := by
  have := Performs.next h .done
  rwa [List.append_nil, List.append_nil] at this

theorem Performs.append (h : Performs a g tasks (.ok ()) steps calls)
    (h' : Performs a g tasks' r steps' calls') :
    Performs a g (tasks ++ tasks') r (steps ++ steps') (calls ++ calls') := by
  generalize hr : (.ok () : Except Fault Unit) = r₀ at h
  induction h with
  | done => exact h'
  | next h _ ih =>
    rw [List.append_assoc, List.append_assoc]
    exact .next h (ih hr)
  | stop => cases hr

theorem Performs.stopped_append (h : Performs a g tasks (.error fault) steps calls) :
    Performs a g (tasks ++ tasks') (.error fault) steps calls := by
  generalize hr : (.error fault : Except Fault Unit) = r₀ at h
  induction h with
  | done => cases hr
  | next h _ ih => exact .next h (ih hr)
  | stop h =>
    cases hr
    exact .stop h

/-- Tasks that fail do so in one of them. -/
theorem Performs.exists_stopped (h : Performs a g tasks (.error fault) steps calls) :
    ∃ task ∈ tasks, ∃ steps', task.Stopped a g fault steps' ∧ steps' ⊆ steps := by
  generalize hr : (.error fault : Except Fault Unit) = r₀ at h
  induction h with
  | done => cases hr
  | next h _ ih =>
    obtain ⟨task, htask, steps', hstopped, hsub⟩ := ih hr
    exact ⟨task, List.mem_cons_of_mem _ htask, steps', hstopped, List.subset_append_of_subset_right _ hsub⟩
  | stop h =>
    cases hr
    exact ⟨_, List.mem_cons_self, _, h, List.Subset.refl _⟩

end Tasks

/-! ## What follows a list of tasks -/

/-- The tasks are performed, and a result tells of the steps what `V` says. -/
def Follows (a : Aligner) (g : GatewayClient) (tasks : List Task) (V : α → List Step → Prop) :
    Account α :=
  fun r steps calls =>
    Performs a g tasks (r.map fun _ => ()) steps calls ∧ ∀ v, r = .ok v → V v steps

/-- What two results tell of the steps one after another. -/
def Chain (V : α → List Step → Prop) (V' : α → β → List Step → Prop) : β → List Step → Prop :=
  fun b steps => ∃ v s s', V v s ∧ V' v b s' ∧ steps = s ++ s'

section Follows

variable {a : Aligner} {g : GatewayClient} {tasks tasks' : List Task} {V : α → List Step → Prop}
  {V' : α → β → List Step → Prop} {x : Harness (Traced σ) α} {f : α → Harness (Traced σ) β}

theorem Follows.bind (hx : Does x (Follows a g tasks V))
    (hf : ∀ v, Does (f v) (Follows a g tasks' (V' v))) :
    Does (x >>= f) (Follows a g (tasks ++ tasks') (Chain V V')) := by
  refine hx.bind hf ?_ ?_
  · rintro e steps calls ⟨h, -⟩
    exact ⟨h.stopped_append, nofun⟩
  · rintro v steps calls r steps' calls' ⟨h, hv⟩ ⟨h', hv'⟩
    exact ⟨h.append h', fun b hb => ⟨v, steps, steps', hv v rfl, hv' b hb, rfl⟩⟩

/-- A result in another form, or something for the reader, adds nothing. -/
theorem Follows.result {h : α → β} (hx : Does x (Follows a g tasks V))
    (hf : ∀ v, Does (f v) fun r steps calls => r = .ok (h v) ∧ steps = [] ∧ calls = []) :
    Does (x >>= f) (Follows a g tasks fun b steps => ∃ v, V v steps ∧ b = h v) := by
  refine hx.bind hf ?_ ?_
  · rintro e steps calls ⟨hperforms, -⟩
    exact ⟨hperforms, nofun⟩
  · rintro v steps calls r _ _ ⟨hperforms, hv⟩ ⟨rfl, rfl, rfl⟩
    rw [List.append_nil, List.append_nil]
    refine ⟨hperforms, ?_⟩
    rintro _ ⟨⟩
    exact ⟨v, hv v rfl, rfl⟩

theorem Follows.mono {W : α → List Step → Prop} (hx : Does x (Follows a g tasks V))
    (h : ∀ v steps, V v steps → W v steps) : Does x (Follows a g tasks W) :=
  hx.mono fun _ _ _ ⟨hperforms, hv⟩ => ⟨hperforms, fun v hr => h v _ (hv v hr)⟩

end Follows

/-! ## Calls of routes -/

/-- The statuses of the calls of routes among steps. -/
def Step.statuses (steps : List Step) : List (Option Int) := (gets steps).map Call.status

theorem Step.statuses_append (steps steps' : List Step) :
    statuses (steps ++ steps') = statuses steps ++ statuses steps' := by
  rw [statuses, gets_append, List.map_append]
  rfl

/-- Steps that neither read the clock nor sleep to the end. -/
def Step.Untimed (steps : List Step) : Prop := readings steps = [] ∧ naps steps = []

theorem Step.Untimed.append {steps steps' : List Step} (h : Untimed steps)
    (h' : Untimed steps') : Untimed (steps ++ steps') := by
  rw [Untimed, readings_append, naps_append, h.1, h.2]
  exact h'

namespace GatewayClient

variable (w : World σ) (a : Aligner) (g : GatewayClient) (t : Target) (c : Credential)

theorem build_method {id : String} {request : Request} (h : g.build t c id = .ok request) :
    request.method = "GET" := by
  unfold build at h
  split at h
  · cases h
  · split at h <;> cases h
    rfl

theorem build_url {id : String} {request : Request} (h : g.build t c id = .ok request) :
    Url.resolve t.url = .ok request.url := by
  unfold build at h
  split at h
  · cases h
  · rename_i url hurl
    split at h <;> cases h
    exact hurl

theorem gets_call {id : String} {request : Request} (h : g.build t c id = .ok request)
    (exchange : Exchange) :
    Step.gets [.newId id, .sent request exchange] = [⟨request, exchange.reply⟩] := by
  have hget : Step.get? (.sent request exchange) = some ⟨request, exchange.reply⟩ :=
    if_pos (g.build_method t c h)
  simp only [Step.gets, List.filterMap_cons, Step.get?, List.filterMap_nil] at hget ⊢
  rw [hget]

/-- A call that is counted is one task. -/
theorem does_counted : Does (g.counted w.traced t c)
    (Follows a g [.call t c] fun status steps =>
      Step.statuses steps = [status] ∧ Step.Untimed steps) := by
  -- the status of the reply, or the fault that the reply is
  have hstatus (id : String) (reply : Reply) : Does (statusOf (σ := Traced σ) t id reply)
      fun r steps calls => steps = [] ∧ calls = [] ∧
        ((Reply.Answered reply ∧ ∀ request, r = .ok (Call.mk request reply).status) ∨
          (¬ Reply.Answered reply ∧ ∃ f, reply = .error f ∧ r = .error (.send f))) := by
    unfold statusOf
    split
    · exact does_pure ⟨rfl, rfl, Or.inl ⟨trivial, fun _ => rfl⟩⟩
    · exact (silent_log _ _ _ _).bind (does_pure ⟨rfl, rfl, Or.inl ⟨trivial, fun _ => rfl⟩⟩)
    · rename_i f hf
      refine does_throw ⟨rfl, rfl, Or.inr ⟨?_, f, rfl, rfl⟩⟩
      cases f with
      | transport kind message => exact absurd rfl (hf kind message)
      | _ => exact not_false
  -- the answer to a request that was built
  have hanswer (id : String) (request : Request) :
      Does (do statusOf t id (← send w.traced request)) fun r steps calls => calls = [] ∧
        ∃ exchange, steps = [.sent request exchange] ∧
          ((Reply.Answered exchange.reply ∧ r = .ok (Call.mk request exchange.reply).status) ∨
            (¬ Reply.Answered exchange.reply ∧
              ∃ f, exchange.reply = .error f ∧ r = .error (.send f))) := by
    refine (does_send w request).bind (hstatus id) ?_ ?_
    · rintro e steps calls ⟨exchange, h, -⟩
      cases h
    · rintro reply steps calls r steps' calls' ⟨exchange, ⟨⟩, rfl, rfl⟩ ⟨rfl, rfl, h⟩
      refine ⟨rfl, exchange, rfl, ?_⟩
      rcases h with ⟨hreply, hr⟩ | h
      · exact Or.inl ⟨hreply, hr request⟩
      · exact Or.inr h
  have hcall : Does (g.call w.traced t c) fun r steps calls => calls = [] ∧
      ((∃ e, r = .error e ∧ Task.Stopped a g (.call t c) e steps) ∨
        ∃ id request exchange, g.build t c id = .ok request ∧ Reply.Answered exchange.reply ∧
          steps = [.newId id, .sent request exchange] ∧
          r = .ok (Call.mk request exchange.reply).status) := by
    refine (does_newId w).bind (Q := fun id r steps calls => calls = [] ∧
      ((∃ e, r = .error e ∧ Task.Stopped a g (.call t c) e (.newId id :: steps)) ∨
        ∃ request exchange, g.build t c id = .ok request ∧ Reply.Answered exchange.reply ∧
          steps = [.sent request exchange] ∧
          r = .ok (Call.mk request exchange.reply).status)) ?_ ?_ ?_
    · intro id
      cases hbuild : g.build t c id with
      | error fault => exact does_throw ⟨rfl, Or.inl ⟨fault, rfl, .unbuilt hbuild⟩⟩
      | ok request =>
        refine (hanswer id request).mono ?_
        rintro r steps calls ⟨rfl, exchange, rfl, ⟨hreply, rfl⟩ | ⟨hreply, f, hf, rfl⟩⟩
        · exact ⟨rfl, Or.inr ⟨request, exchange, rfl, hreply, rfl, rfl⟩⟩
        · exact ⟨rfl, Or.inl ⟨_, rfl, .broken hbuild hf hreply⟩⟩
    · rintro e steps calls ⟨id, h, -⟩
      cases h
    · rintro id steps calls r steps' calls' ⟨_, ⟨⟩, rfl, rfl⟩ ⟨rfl, h⟩
      refine ⟨rfl, ?_⟩
      rcases h with h | ⟨request, exchange, hbuild, hreply, rfl, hr⟩
      · exact Or.inl h
      · exact Or.inr ⟨id, request, exchange, hbuild, hreply, rfl, hr⟩
  refine hcall.bind (Q := fun status r steps calls => r = .ok status ∧ steps = [] ∧
    calls = [.request t.name c.name (Outcome.ofStatus status).name]) ?_ ?_ ?_
  · intro status
    refine (does_record _).bind (fun _ => does_pure ⟨rfl, rfl, rfl⟩)
      (Q := fun _ r steps calls => r = .ok status ∧ steps = [] ∧ calls = []) ?_ ?_
    · rintro e steps calls ⟨h, -⟩
      cases h
    · rintro _ steps calls r steps' calls' ⟨-, rfl, rfl⟩ ⟨rfl, rfl, rfl⟩
      exact ⟨rfl, rfl, rfl⟩
  · rintro e steps calls ⟨rfl, ⟨_, ⟨⟩, h⟩ | ⟨_, _, _, -, -, -, h⟩⟩
    · exact ⟨.stop h, nofun⟩
    · cases h
  · rintro status steps calls r steps' calls' ⟨rfl, h⟩ ⟨rfl, rfl, rfl⟩
    rcases h with ⟨_, h, -⟩ | ⟨id, request, exchange, hbuild, hreply, rfl, ⟨⟩⟩
    · cases h
    · refine ⟨(Task.Done.call hbuild hreply).performs, ?_⟩
      rintro _ ⟨⟩
      rw [List.append_nil, Step.statuses, g.gets_call t c hbuild]
      exact ⟨rfl, rfl, rfl⟩

theorem does_repeated (n : Nat) : Does (g.repeated w.traced t c n)
    (Follows a g (.replicate n (.call t c)) fun outcomes steps =>
      ((Step.statuses steps).length = n ∧ Step.Untimed steps) ∧
        outcomes = (Step.statuses steps).map Outcome.ofStatus) := by
  induction n with
  | zero => exact does_pure ⟨.done, by rintro _ ⟨⟩; exact ⟨⟨rfl, rfl, rfl⟩, rfl⟩⟩
  | succ n ih =>
    have hrest (status : Option Int) := Follows.result
      (f := fun outcomes => pure (Outcome.ofStatus status :: outcomes)) ih
      fun _ => does_pure ⟨rfl, rfl, rfl⟩
    have h := Follows.bind (g.does_counted w a t c) hrest
    refine Follows.mono h ?_
    rintro _ _ ⟨status, s, s', ⟨hs, hquick⟩, ⟨outcomes, ⟨⟨hlength, hquick'⟩, rfl⟩, rfl⟩, rfl⟩
    rw [Step.statuses_append, hs]
    refine ⟨⟨?_, hquick.append hquick'⟩, rfl⟩
    rw [List.length_append, hlength, List.length_singleton, Nat.add_comm]

/-- A burst is as many tasks, and its counts are those of the replies. -/
theorem does_burst {count : Int} (hcount : 1 ≤ count) : Does (g.burst w.traced t c count)
    (Follows a g (.replicate count.toNat (.call t c)) fun tally steps =>
      ((Step.statuses steps).length = count.toNat ∧ Step.Untimed steps) ∧
        tally = .ofStatuses (Step.statuses steps)) := by
  unfold burst
  rw [if_neg (by omega)]
  refine Follows.mono (Follows.result (h := Tally.ofOutcomes) (g.does_repeated w a t c _) ?_) ?_
  · intro outcomes
    exact (silent_log _ _ _ _).bind (does_pure ⟨rfl, rfl, rfl⟩)
  · rintro _ steps ⟨outcomes, ⟨hlength, rfl⟩, rfl⟩
    exact ⟨hlength, rfl⟩

theorem does_probe : Does (g.probe w.traced t c)
    (Follows a g [.call t c] fun probe steps => ∃ status,
      (Step.statuses steps = [status] ∧ Step.Untimed steps) ∧ probe = ⟨t.name, status⟩) := by
  unfold probe
  refine Follows.result (h := Probe.mk t.name) (g.does_counted w a t c) ?_
  intro status
  exact (silent_log _ _ _ _).bind (does_pure ⟨rfl, rfl, rfl⟩)

end GatewayClient

/-! ## Waits -/

/-- The alignments that came to their end, from the readings before them. -/
def Aligner.alignments (a : Aligner) (steps : List Step) : List Alignment :=
  ((Step.readings steps).zip (Step.naps steps)).map fun p => a.alignmentAt p.1

theorem ofExcept_ok_bind {ε : Type} (fault : ε → Fault) (v : α) (f : α → Harness σ β) :
    (ofExcept fault (.ok v) >>= f) = f v := rfl

theorem throw_bind (e : Fault) (f : α → Harness σ β) : (throw e >>= f) = throw e := rfl

/-- What a wait from a reading of the clock on comes to. -/
inductive Aligner.Waits (a : Aligner) (now : Int) : Except Fault Alignment → List Step → Prop
  | overflow (h : secondsOfMillis (a.waitAt now) = none) :
    Waits a now (.error .secondsOverflow) [.readClock now]
  | slept {seconds : Binary64} (h : secondsOfMillis (a.waitAt now) = some seconds) :
    Waits a now (.ok (a.alignmentAt now)) [.readClock now, .slept (.binary seconds) (.ok ())]
  | broken {time : Seconds} {f : SleepFault} :
    Waits a now (.error (.sleep f)) [.readClock now, .slept time (.error f)]

namespace Scenario

variable (w : World σ) (a : Aligner) (g : GatewayClient)

theorem does_align (hwindow : 0 < a.window) (hmargin : 0 ≤ a.margin) :
    Does (a.align w.traced) fun r steps calls => calls = [] ∧ ∃ now, a.Waits now r steps := by
  refine (does_readClock w).bind (Q := fun now r steps calls =>
    calls = [] ∧ a.Waits now r (.readClock now :: steps)) ?_ ?_ ?_
  · intro now
    rw [Aligner.waitFor_eq hwindow hmargin, ofExcept_ok_bind]
    refine (silent_log _ _ _ _).bind ?_
    cases hseconds : secondsOfMillis (a.waitAt now) with
    | none => exact does_throw ⟨rfl, .overflow hseconds⟩
    | some seconds =>
      refine (does_sleep w _).bind (fun _ => does_pure ⟨rfl, rfl, rfl⟩)
        (Q := fun _ r steps calls => r = .ok (a.alignmentAt now) ∧ steps = [] ∧ calls = []) ?_ ?_
      · rintro e steps calls ⟨_ | _, h, rfl, rfl⟩ <;> cases h
        exact ⟨rfl, .broken⟩
      · rintro _ steps calls r _ _ ⟨_ | _, h, rfl, rfl⟩ ⟨rfl, rfl, rfl⟩ <;> cases h
        exact ⟨rfl, .slept hseconds⟩
  · rintro e steps calls ⟨now, h, -⟩
    cases h
  · rintro now _ _ r steps calls ⟨_, ⟨⟩, rfl, rfl⟩ ⟨rfl, h⟩
    exact ⟨rfl, now, h⟩

/-- A wait is one task, and is described by the reading before it. -/
theorem does_alignWindow (hwindow : 0 < a.window) (hmargin : 0 ≤ a.margin) :
    Does (alignWindow w.traced a) (Follows a g [.wait] fun al steps => al = a.alignmentAt al.now ∧
      Step.readings steps = [al.now] ∧ (Step.naps steps).length = 1 ∧ Step.gets steps = []) := by
  refine (does_align w a hwindow hmargin).bind (Q := fun al r steps calls =>
    ∀ seconds, al.waitSeconds = some seconds →
      r = .ok al ∧ steps = [] ∧ calls = [.alignment seconds]) ?_ ?_ ?_
  · intro al
    cases hseconds : al.waitSeconds with
    | none =>
      dsimp only
      rw [throw_bind]
      exact does_throw fun _ h => nomatch h
    | some seconds =>
      refine (does_record _).bind (Q := fun _ r steps calls => r = .ok al ∧ steps = [] ∧ calls = [])
        (fun _ => (silent_log _ _ _ _).bind (does_pure ⟨rfl, rfl, rfl⟩)) ?_ ?_
      · rintro e steps calls ⟨h, -⟩
        cases h
      · rintro _ _ _ r _ _ ⟨-, rfl, rfl⟩ ⟨rfl, rfl, rfl⟩ _ ⟨⟩
        exact ⟨rfl, rfl, rfl⟩
  · rintro e steps calls ⟨rfl, now, h⟩
    generalize hr : (.error e : Except Fault Alignment) = r at h
    cases h with
    | overflow h => cases hr; exact ⟨.stop (.overflow h), nofun⟩
    | slept h => cases hr
    | broken => cases hr; exact ⟨.stop .sleep, nofun⟩
  · rintro al steps _ r steps' calls ⟨rfl, now, h⟩ hrest
    generalize hr : (.ok al : Except Fault Alignment) = r' at h
    cases h with
    | overflow h => cases hr
    | broken => cases hr
    | slept h =>
      cases hr
      obtain ⟨rfl, rfl, rfl⟩ := hrest _ h
      refine ⟨(Task.Done.wait h).performs, ?_⟩
      rintro _ ⟨⟩
      exact ⟨rfl, rfl, rfl, rfl⟩

end Scenario

/-! ## Logins -/

/-- What a login can come to, with its steps. -/
inductive LoginService.Attempts (l : LoginService) (i : Identity) :
    Except Fault Credential → List Step → Prop
  | unreadable {f : UrlFault} (h : Url.resolve l.loginUrl = .error f) :
    Attempts l i (.error (.url f)) []
  | sent {url : Url} (h : Url.resolve l.loginUrl = .ok url) (exchange : Exchange) :
    Attempts l i ((judge exchange.reply).bind (outcome i)) [.sent (l.request i url) exchange]

namespace LoginService

theorem silent_report (i : Identity) (judged : Except LoginFailure String) :
    Silent (report (σ := Traced σ) i judged) := by
  unfold report
  split
  case h_3 | h_4 => exact silent_pure
  all_goals exact silent_log _ _ _ _

theorem does_acquire (w : World σ) (l : LoginService) (i : Identity) :
    Does (l.acquire w.traced i) fun r steps calls => l.Attempts i r steps ∧ calls = [] := by
  unfold acquire
  cases hurl : Url.resolve l.loginUrl with
  | error f =>
    split
    case' isTrue => refine (silent_openConnection _).bind ?_
    all_goals exact does_throw ⟨.unreadable hurl, rfl⟩
  | ok url =>
    split
    case' isTrue => refine (silent_openConnection _).bind ?_
    all_goals
      rw [ofExcept_ok_bind]
      refine (does_send w _).bind (Q := fun reply r steps calls =>
        r = (judge reply).bind (outcome i) ∧ steps = [] ∧ calls = []) (fun reply => ?_) ?_ ?_
      · -- what is done with the reply
        cases judge reply with
        | error fault => exact does_throw ⟨rfl, rfl, rfl⟩
        | ok judged =>
          rw [ofExcept_ok_bind]
          refine (silent_report i judged).bind ?_
          cases judged with
          | error failure => exact does_throw ⟨rfl, rfl, rfl⟩
          | ok token => exact does_pure ⟨rfl, rfl, rfl⟩
      · rintro e steps calls ⟨exchange, h, -⟩
        cases h
      · rintro reply steps calls r _ _ ⟨exchange, ⟨⟩, rfl, rfl⟩ ⟨rfl, rfl, rfl⟩
        exact ⟨.sent hurl exchange, rfl⟩

end LoginService

/-! ## Experiments -/

namespace Scenario

/-- What there is to do once both callers have their credentials. -/
def tasks (s : Scenario) (cA cB : Credential) : List Task :=
  .wait :: (.replicate s.burstRequests.toNat (.call s.users cA) ++ .call s.orders cA ::
    .wait :: (.replicate s.burstRequests.toNat (.call s.users cA) ++ [.call s.users cB]))

/-- What the experiments found is what their steps show. -/
structure Tells (s : Scenario) (f : Findings) (steps : List Step) : Prop where
  alignments : [f.alignmentA, f.alignmentB] = s.aligner.alignments steps
  replies : ∃ burstA probeA burstB probeB,
    Step.statuses steps = burstA ++ probeA :: (burstB ++ [probeB]) ∧
    burstA.length = s.burstRequests.toNat ∧ burstB.length = s.burstRequests.toNat ∧
    f.usersBurst = .ofStatuses burstA ∧ f.ordersProbe = ⟨s.orders.name, probeA⟩ ∧
    f.tokenABurst = .ofStatuses burstB ∧ f.tokenBProbe = ⟨s.users.name, probeB⟩

/-- What the experiments can come to, with their steps and the metrics written. -/
inductive Conducts (s : Scenario) : Account Findings
  | loginA {e : Fault} {steps : List Step}
    (hA : s.auth.Attempts s.callerA (.error e) steps) : Conducts s (.error e) steps []
  | loginB {cA : Credential} {e : Fault} {steps steps' : List Step}
    (hA : s.auth.Attempts s.callerA (.ok cA) steps)
    (hB : s.auth.Attempts s.callerB (.error e) steps') : Conducts s (.error e) (steps ++ steps') []
  | routes {cA cB : Credential} {r : Except Fault Findings} {loginA loginB steps : List Step}
    {calls : List Recording} (hA : s.auth.Attempts s.callerA (.ok cA) loginA)
    (hB : s.auth.Attempts s.callerB (.ok cB) loginB)
    (hroutes : Follows s.aligner s.gateway (s.tasks cA cB) s.Tells r steps calls) :
    Conducts s r (loginA ++ (loginB ++ steps)) calls

variable {w : World σ} {s : Scenario}

theorem does_routes (hwindow : 0 < s.aligner.window) (hmargin : 0 ≤ s.aligner.margin)
    (hn : 1 ≤ s.burstRequests) (cA cB : Credential) :
    Does (do
      Harness.setPhase (σ := Traced σ) (some "experiment_a")
      let alignmentA ← alignWindow w.traced s.aligner
      let usersBurst ← s.gateway.burst w.traced s.users cA s.burstRequests
      let ordersProbe ← s.gateway.probe w.traced s.orders cA
      Harness.setPhase (some "experiment_b")
      let alignmentB ← alignWindow w.traced s.aligner
      let tokenABurst ← s.gateway.burst w.traced s.users cA s.burstRequests
      let tokenBProbe ← s.gateway.probe w.traced s.users cB
      return { alignmentA, usersBurst, ordersProbe, alignmentB, tokenABurst, tokenBProbe })
      (Follows s.aligner s.gateway (s.tasks cA cB) s.Tells) := by
  have halign := does_alignWindow w s.aligner s.gateway hwindow hmargin
  have hburst := s.gateway.does_burst w s.aligner s.users cA hn
  have hprobe := s.gateway.does_probe w s.aligner
  refine (silent_setPhase _).bind (Follows.mono (Follows.bind halign fun alA =>
    Follows.bind hburst fun usersBurst => Follows.bind (hprobe s.orders cA) fun ordersProbe =>
    (silent_setPhase _).bind (Follows.bind halign fun alB => Follows.bind hburst fun tokenABurst =>
    Follows.result (h := Findings.mk alA usersBurst ordersProbe alB tokenABurst)
      (hprobe s.users cB) fun _ => does_pure ⟨rfl, rfl, rfl⟩)) ?_)
  rintro _ _ ⟨alA, s₁, _, ⟨halA, hreadA, hnapA, hgetA⟩, ⟨_, s₂, _, ⟨⟨hlengthA, hquickA⟩, rfl⟩,
    ⟨_, s₃, _, ⟨probeA, ⟨hprobeA, hquickA'⟩, rfl⟩, ⟨alB, s₄, _, ⟨halB, hreadB, hnapB, hgetB⟩,
    ⟨_, s₅, s₆, ⟨⟨hlengthB, hquickB⟩, rfl⟩, ⟨_, ⟨probeB, ⟨hprobeB, hquickB'⟩, rfl⟩, rfl⟩, rfl⟩, rfl⟩,
    rfl⟩, rfl⟩, rfl⟩
  constructor
  · obtain ⟨napA, hnapA⟩ := List.length_eq_one_iff.1 hnapA
    obtain ⟨napB, hnapB⟩ := List.length_eq_one_iff.1 hnapB
    simp [Aligner.alignments, hreadA, hreadB, hnapA, hnapB, hquickA.1, hquickA.2, hquickA'.1,
      hquickA'.2, hquickB.1, hquickB.2, hquickB'.1, hquickB'.2, ← halA, ← halB]
  · refine ⟨_, probeA, _, probeB, ?_, hlengthA, hlengthB, rfl, rfl, rfl, rfl⟩
    have hnone {steps : List Step} (h : Step.gets steps = []) : Step.statuses steps = [] := by
      rw [Step.statuses, h]
      rfl
    simp only [Step.statuses_append, hnone hgetA, hnone hgetB, hprobeA, hprobeB, List.nil_append,
      List.cons_append]

theorem does_experiments (hwindow : 0 < s.aligner.window) (hmargin : 0 ≤ s.aligner.margin)
    (hn : 1 ≤ s.burstRequests) : Does (s.experiments w.traced) s.Conducts := by
  have hA := LoginService.does_acquire w s.auth s.callerA
  have hB := LoginService.does_acquire w s.auth s.callerB
  refine (silent_setPhase _).bind (hA.bind (Q := fun cA r steps calls =>
    ∀ loginA, s.auth.Attempts s.callerA (.ok cA) loginA → s.Conducts r (loginA ++ steps) calls)
    ?_ ?_ ?_)
  · intro cA
    refine hB.bind (does_routes hwindow hmargin hn cA) ?_ ?_
    · rintro e steps calls ⟨hB, rfl⟩ loginA hA
      exact .loginB hA hB
    · rintro cB loginB _ r steps calls ⟨hB, rfl⟩ hroutes loginA hA
      exact .routes hA hB hroutes
  · rintro e steps calls ⟨hA, rfl⟩
    exact .loginA hA
  · rintro cA loginA _ r steps calls ⟨hA, rfl⟩ h
    exact h loginA hA

end Scenario

/-! ## Whole runs -/

/-- What is written into the metrics about a fault of the experiments. -/
def Fault.recordings : Fault → List Recording
  | .harness e => [.error e.code]
  | _ => []

/-- What is written into the metrics after the experiments. -/
def Findings.recordings : Except Fault Findings → List Recording
  | .ok f => (Check.evaluate f.usersBurst f.ordersProbe f.tokenABurst f.tokenBProbe).map
      fun c => .check c.label c.passed
  | .error e => e.recordings

/-- What a run can come to: an id is taken, and the experiments give its results or its fault. -/
inductive Settings.Runs (settings : Settings) : Account RunResult
  | intro {begun steps : List Step} {r : Except Fault Findings} {calls : List Recording}
    {id : String} (hbegun : begun = [] ∨ begun = [.newId id])
    (h : settings.scenario.Conducts r steps calls) :
    Runs settings (r.map fun f => f.result id) (begun ++ steps) (calls ++ Findings.recordings r)

/-- The fault of a run is that of its experiments. -/
theorem Settings.Runs.error_conducts {settings : Settings} {fault : Fault} {steps : List Step}
    {calls : List Recording} (h : settings.Runs (.error fault) steps calls) :
    ∃ begun steps' calls', steps = begun ++ steps' ∧ (begun = [] ∨ ∃ id, begun = [.newId id]) ∧
      calls = calls' ++ fault.recordings ∧
      settings.scenario.Conducts (.error fault) steps' calls' := by
  generalize hr : (.error fault : Except Fault RunResult) = r at h
  obtain @⟨begun, steps', r, calls', id, hbegun, h⟩ := h
  cases r with
  | ok f => cases hr
  | error e =>
    cases hr
    exact ⟨begun, steps', calls', rfl, hbegun.imp_right fun h => ⟨id, h⟩, rfl, h⟩

/-- The results of a run are those of its experiments. -/
theorem Settings.Runs.ok_conducts {settings : Settings} {result : RunResult} {steps : List Step}
    {calls : List Recording} (h : settings.Runs (.ok result) steps calls) :
    ∃ id f begun steps' calls', result = f.result id ∧ steps = begun ++ steps' ∧
      (begun = [] ∨ begun = [.newId id]) ∧ calls = calls' ++ Findings.recordings (.ok f) ∧
      settings.scenario.Conducts (.ok f) steps' calls' := by
  generalize hr : (.ok result : Except Fault RunResult) = r at h
  obtain @⟨begun, steps', r, calls', id, hbegun, h⟩ := h
  cases r with
  | ok f =>
    cases hr
    exact ⟨id, f, begun, steps', calls', rfl, rfl, hbegun, rfl, h⟩
  | error e => cases hr

namespace Scenario

/-- Experiments that come to their end log in both callers and do all that there is to do. -/
theorem Conducts.of_ok {s : Scenario} {f : Findings} {steps : List Step} {calls : List Recording}
    (h : s.Conducts (.ok f) steps calls) :
    ∃ cA cB loginA loginB steps', steps = loginA ++ (loginB ++ steps') ∧
      s.auth.Attempts s.callerA (.ok cA) loginA ∧ s.auth.Attempts s.callerB (.ok cB) loginB ∧
      Performs s.aligner s.gateway (s.tasks cA cB) (.ok ()) steps' calls ∧ s.Tells f steps' := by
  generalize hr : (.ok f : Except Fault Findings) = r at h
  cases h with
  | loginA => cases hr
  | loginB => cases hr
  | routes hA hB hroutes =>
    subst hr
    exact ⟨_, _, _, _, _, rfl, hA, hB, hroutes.1, hroutes.2 f rfl⟩

/-- The guard of the experiments writes their fault into the metrics, if it is the harness's. -/
theorem does_guarded {x : Harness (Traced σ) α} {P : Account α} (hx : Does x P) :
    Does (guarded x) fun r steps calls => ∃ before, P r steps before ∧
      calls = before ++ match r with
        | .ok _ => []
        | .error e => e.recordings := by
  have hreport (e : Fault) : Does (reportAbort (σ := Traced σ) e)
      fun r steps calls => r = .ok () ∧ steps = [] ∧ calls = e.recordings := by
    cases e with
    | harness e => exact (silent_log _ _ _ _).bind (does_record _)
    | _ => exact does_pure ⟨rfl, rfl, rfl⟩
  refine Does.ensuring (hx.tryCatch (Q := fun e r steps calls =>
    r = .error e ∧ steps = [] ∧ calls = e.recordings) ?_ ?_ ?_) (silent_setPhase none)
  · intro e
    refine (hreport e).bind (fun _ => does_throw ⟨rfl, rfl, rfl⟩)
      (Q := fun _ r steps calls => r = .error e ∧ steps = [] ∧ calls = []) ?_ ?_
    · rintro _ _ _ ⟨h, -⟩
      cases h
    · rintro _ _ _ _ _ _ ⟨-, rfl, rfl⟩ ⟨rfl, rfl, rfl⟩
      exact ⟨rfl, rfl, List.append_nil _⟩
  · intro v steps calls h
    exact ⟨calls, h, (List.append_nil _).symm⟩
  · rintro e steps calls _ _ _ h ⟨rfl, rfl, rfl⟩
    exact ⟨calls, by rwa [List.append_nil], rfl⟩

theorem does_conclude (id : String) (f : Findings) :
    Does (conclude (σ := Traced σ) id f) fun r steps calls => r = .ok (f.result id) ∧ steps = [] ∧
      calls = Findings.recordings (.ok f) := by
  have hchecks (checks : List Check) : Does (checks.forM (reportCheck (σ := Traced σ)))
      fun r steps calls => r = .ok () ∧ steps = [] ∧
        calls = checks.map fun c => .check c.label c.passed := by
    induction checks with
    | nil => exact silent_pure
    | cons c checks ih =>
      have hcheck : Does (reportCheck (σ := Traced σ) c) fun r steps calls =>
          r = .ok () ∧ steps = [] ∧ calls = [.check c.label c.passed] := by
        refine (does_record _).bind (fun _ => silent_log _ _ _ _) ?_ ?_
        · rintro _ _ _ ⟨h, -⟩
          cases h
        · rintro _ _ _ _ _ _ ⟨-, rfl, rfl⟩ ⟨rfl, rfl, rfl⟩
          exact ⟨rfl, rfl, rfl⟩
      refine hcheck.bind (fun _ => ih) ?_ ?_
      · rintro _ _ _ ⟨h, -⟩
        cases h
      · rintro _ _ _ _ _ _ ⟨-, rfl, rfl⟩ ⟨rfl, rfl, rfl⟩
        exact ⟨rfl, rfl, rfl⟩
  refine (silent_setPhase _).bind ((hchecks _).bind (Q := fun _ r steps calls =>
    r = .ok (f.result id) ∧ steps = [] ∧ calls = []) ?_ ?_ ?_)
  · intro _
    exact (silent_setPhase _).bind (does_pure ⟨rfl, rfl, rfl⟩)
  · rintro _ _ _ ⟨h, -⟩
    cases h
  · rintro _ _ _ _ _ _ ⟨-, rfl, rfl⟩ ⟨rfl, rfl, rfl⟩
    exact ⟨rfl, rfl, List.append_nil _⟩

end Scenario

theorem does_beginRun (w : World σ) (runId : Option String) :
    Does (beginRun w.traced runId) fun r steps calls => calls = [] ∧
      ∃ id, r = .ok id ∧ (steps = [] ∨ steps = [.newId id]) := by
  have hset (id : String) : Does (do
      setRunId (σ := Traced σ) id
      return id) fun r steps calls => r = .ok id ∧ steps = [] ∧ calls = [] :=
    (silent_setRunId id).bind (does_pure ⟨rfl, rfl, rfl⟩)
  cases runId with
  | some id => exact (hset id).mono fun r steps calls ⟨hr, hsteps, hcalls⟩ =>
      ⟨hcalls, id, hr, Or.inl hsteps⟩
  | none =>
    refine (does_newId w).bind hset ?_ ?_
    · rintro _ _ _ ⟨_, h, -⟩
      cases h
    · rintro id _ _ _ _ _ ⟨_, ⟨⟩, rfl, rfl⟩ ⟨rfl, rfl, rfl⟩
      exact ⟨rfl, id, rfl, Or.inr rfl⟩

/-- **What a run can do.**  Whatever the outside does, a run under a window that is longer than
    nothing, a margin that is not negative and a burst of at least one request takes an id, does
    what its experiments do, and writes into the metrics what came of them. -/
theorem does_runScenario (w : World σ) {settings : Settings} (hwindow : 0 < settings.windowMs)
    (hmargin : 0 ≤ settings.alignMarginMs) (hn : 1 ≤ settings.burstRequests) (shared : Bool)
    (runId : Option String) : Does (runScenario w.traced settings shared runId) settings.Runs := by
  have hexperiments : Does (settings.scenario.experiments w.traced) settings.scenario.Conducts :=
    Scenario.does_experiments hwindow hmargin hn
  have hend (id : String) : Does (do
      Scenario.conclude id (← Scenario.guarded (settings.scenario.experiments w.traced)))
      fun r steps calls => ∃ r' before, settings.scenario.Conducts r' steps before ∧
        r = r'.map (fun f => f.result id) ∧ calls = before ++ Findings.recordings r' := by
    refine (Scenario.does_guarded hexperiments).bind (Scenario.does_conclude id) ?_ ?_
    · rintro e steps _ ⟨before, h, rfl⟩
      exact ⟨_, before, h, rfl, rfl⟩
    · rintro f steps _ _ _ _ ⟨before, h, rfl⟩ ⟨rfl, rfl, rfl⟩
      rw [List.append_nil, List.append_nil]
      exact ⟨_, before, h, rfl, rfl⟩
  have hrun : Does (settings.scenario.run w.traced runId) settings.Runs := by
    refine (does_beginRun w runId).bind (fun id => (silent_log _ _ _ _).bind (hend id)) ?_ ?_
    · rintro _ _ _ ⟨-, _, h, -⟩
      cases h
    · rintro id begun _ _ steps _ ⟨rfl, _, ⟨⟩, hbegun⟩ ⟨r', before, h, rfl, rfl⟩
      exact .intro hbegun h
  unfold runScenario
  rw [aligner_make hwindow hmargin, ofExcept_ok_bind]
  split
  case' isTrue => refine (silent_openConnection _).bind ?_
  all_goals exact hrun

end RateIsolation
