/-
  What a run writes into the metrics, and what its results say of that.

  * `Scenario.plan` are the calls of routes that a run has to make, in order;
    `PastRun.requests`, `checked`, `aborted` and `alignments` read off a run,
    from how it ended and from its steps, what the metrics should say of it;
  * `Settings.Runs.wrote`: a run writes exactly that, wherever it ends;
  * `Settings.Runs.planned`: its calls are the first of the plan, each built for
    its route with a credential that its caller was given;
  * `Settings.Runs.accounts` and `Settings.Runs.decided`: the results of a run
    say what it wrote.
-/
import RateIsolation.Proofs.Causes
import RateIsolation.Proofs.Counters

namespace RateIsolation

/-! ## The calls of a run -/

/-- The class of the answer to a call, if it is an answer or a failure of the transport. -/
def Call.outcome? (c : Call) : Option Outcome :=
  match c.reply with
  | .ok r => some (.ofStatus (some r.status))
  | .error (.transport _ _) => some .other
  | .error _ => none

theorem Call.outcome?_of_answered {c : Call} (h : Reply.Answered c.reply) :
    c.outcome? = some (.ofStatus c.status) := by
  rcases c with ⟨request, reply⟩
  match reply, h with
  | .ok r, _ => rfl
  | .error (.transport kind message), _ => rfl

theorem Call.outcome?_of_not_answered {c : Call} (h : ¬ Reply.Answered c.reply) :
    c.outcome? = none := by
  rcases c with ⟨request, reply⟩
  match reply, h with
  | .ok r, h => exact absurd trivial h
  | .error (.transport kind message), h => exact absurd trivial h
  | .error (.badAddress _), _ | .error (.cookieConflict _), _ | .error (.interrupted _), _
  | .error (.server _), _ => rfl

namespace Task

/-- The route and the credential of a call. -/
def route? : Task → Option (Target × Credential)
  | wait => none
  | call t c => some (t, c)

end Task

/-- How many of the calls that were planned went to a target under an identity and had an
    outcome; where the calls end early, nothing is counted for the rest of the plan. -/
def countCalls {κ : Type} (name : κ → String) (plan : List (Target × κ)) (calls : List Call)
    (target identity : String) (o : Outcome) : Nat :=
  ((plan.map (Prod.map Target.name name)).zip (calls.map Call.outcome?)).count
    ((target, identity), some o)

theorem countCalls_cons {κ : Type} (name : κ → String) (t : Target) (c : κ)
    (plan : List (Target × κ)) (call : Call) (calls : List Call) (target identity : String)
    (o : Outcome) :
    countCalls name ((t, c) :: plan) (call :: calls) target identity o =
      countCalls name plan calls target identity o +
        if t.name = target ∧ name c = identity ∧ call.outcome? = some o then 1 else 0 := by
  simp only [countCalls, List.map_cons, List.zip_cons_cons, List.count_cons, beq_iff_eq,
    Prod.map_apply, Prod.mk.injEq, and_assoc]

theorem countCalls_nil {κ : Type} (name : κ → String) (plan : List (Target × κ))
    (target identity : String) (o : Outcome) : countCalls name plan [] target identity o = 0 := by
  simp [countCalls]

theorem Outcome.name_inj {o p : Outcome} : o.name = p.name ↔ o = p := by
  cases o <;> cases p <;> decide

/-- Calls that write the counts of requests and some waits into the metrics, and nothing else. -/
structure Writes (calls : List Recording) (requests : String → String → Outcome → Nat)
    (waits : List Alignment) : Prop where
  requests : ∀ target identity o,
    calls.count (.request target identity o.name) = requests target identity o
  waits : (calls.filterMap Recording.seconds?).map some = waits.map Alignment.waitSeconds
  others : ∀ call ∈ calls, call.isError = false ∧ ∀ label passed, call ≠ .check label passed

namespace Writes

variable {calls : List Recording} {requests : String → String → Outcome → Nat}
  {waits : List Alignment}

theorem count_check (h : Writes calls requests waits) (c : Check) :
    calls.count (.check c.label c.passed) = 0 :=
  List.count_eq_zero.2 fun hmem => (h.others _ hmem).2 _ _ rfl

theorem countP_isError (h : Writes calls requests waits) : calls.countP Recording.isError = 0 :=
  List.countP_eq_zero.2 fun call hmem => by rw [(h.others call hmem).1]; exact Bool.false_ne_true

end Writes

section Tasks

variable {a : Aligner} {g : GatewayClient} {tasks : List Task} {r : Except Fault Unit}
  {steps steps' : List Step} {calls : List Recording}

theorem Aligner.alignments_append (h : (Step.readings steps).length = (Step.naps steps).length) :
    a.alignments (steps ++ steps') = a.alignments steps ++ a.alignments steps' := by
  rw [alignments, Step.readings_append, Step.naps_append, List.zip_append h, List.map_append]
  rfl

/-- Tasks write of their calls and their waits what their steps tell. -/
theorem Performs.writes (h : Performs a g tasks r steps calls) :
    Writes calls (countCalls Credential.name (tasks.filterMap Task.route?) (Step.gets steps))
      (a.alignments steps) := by
  induction h with
  | done => exact ⟨fun _ _ _ => rfl, rfl, fun _ h => absurd h List.not_mem_nil⟩
  | @next task tasks r steps steps' calls calls' hdone _ ih =>
    cases hdone with
    | wait hseconds =>
      constructor
      · intro target identity o
        rw [List.count_append, ih.requests]
        exact Nat.zero_add _
      · have hwait (now : Int) (time : Seconds) :
            (a.alignments [.readClock now, .slept time (.ok ())]).map Alignment.waitSeconds =
              [secondsOfMillis (a.waitAt now)] := rfl
        rw [Aligner.alignments_append rfl, List.filterMap_append, List.map_append, ih.waits,
          List.map_append, hwait, hseconds]
        rfl
      · refine List.forall_mem_append.2 ⟨List.forall_mem_singleton.2 ⟨rfl, nofun⟩, ih.others⟩
    | @call t c id request exchange hbuild hreply =>
      constructor
      · intro target identity o
        rw [List.count_append, ih.requests, Step.gets_append, g.gets_call t c hbuild,
          List.filterMap_cons]
        simp only [Task.route?, List.singleton_append]
        rw [countCalls_cons, Call.outcome?_of_answered hreply, List.count_singleton]
        simp [Outcome.name_inj, Nat.add_comm]
      · rw [Aligner.alignments_append rfl, List.filterMap_append, List.map_append, ih.waits,
          List.map_append]
        rfl
      · refine List.forall_mem_append.2 ⟨List.forall_mem_singleton.2 ⟨rfl, nofun⟩, ih.others⟩
  | stop hstopped =>
    refine ⟨fun target identity o => ?_, ?_, fun _ h => absurd h List.not_mem_nil⟩
    · cases hstopped with
      | @broken t c id request exchange _ hbuild _ hreply =>
        rw [g.gets_call t c hbuild, List.filterMap_cons]
        simp only [Task.route?]
        rw [countCalls_cons, countCalls_nil, Call.outcome?_of_not_answered hreply]
        simp
      | _ => exact (countCalls_nil _ _ _ _ _).symm
    · cases hstopped <;> rfl

/-- Tasks make their calls in order, each as its route and its credential have it. -/
theorem Performs.planned (h : Performs a g tasks r steps calls) :
    (Step.gets steps).length ≤ (tasks.filterMap Task.route?).length ∧
      ∀ p ∈ (tasks.filterMap Task.route?).zip (Step.gets steps),
        ∃ id, g.build p.1.1 p.1.2 id = .ok p.2.request := by
  induction h with
  | done => exact ⟨Nat.le_refl _, fun _ h => absurd h List.not_mem_nil⟩
  | next hdone _ ih =>
    cases hdone with
    | wait => exact ih
    | @call t c id request exchange hbuild =>
      rw [Step.gets_append, g.gets_call t c hbuild]
      exact ⟨Nat.succ_le_succ ih.1, List.forall_mem_cons.2 ⟨⟨id, hbuild⟩, ih.2⟩⟩
  | stop hstopped =>
    cases hstopped with
    | @broken t c id request exchange _ hbuild =>
      rw [g.gets_call t c hbuild]
      refine ⟨Nat.succ_le_succ (Nat.zero_le _), List.forall_mem_cons.2 ⟨⟨id, hbuild⟩, ?_⟩⟩
      simp
    | _ =>
      refine ⟨Nat.zero_le _, fun p hp => ?_⟩
      have hp : p ∈ List.zip _ ([] : List Call) := hp
      rw [List.zip_nil_right] at hp
      cases hp

end Tasks

/-! ## What a run should write -/

/-- The calls of routes that a run has to make, in order, with who makes them. -/
def Scenario.plan {κ : Type} (s : Scenario) (a b : κ) : List (Target × κ) :=
  .replicate s.burstRequests.toNat (s.users, a) ++ (s.orders, a) ::
    (.replicate s.burstRequests.toNat (s.users, a) ++ [(s.users, b)])

theorem Scenario.map_plan {κ ι : Type} (s : Scenario) (f : κ → ι) (a b : κ) :
    (s.plan a b).map (Prod.map id f) = s.plan (f a) (f b) := by
  simp [plan]

theorem Scenario.mem_plan {κ : Type} {s : Scenario} {a b x : κ} {t : Target}
    (h : (t, x) ∈ s.plan a b) : x = a ∨ x = b := by
  simp only [plan, List.mem_append, List.mem_cons, List.mem_replicate, Prod.mk.injEq,
    List.not_mem_nil, or_false] at h
  grind

theorem Scenario.routes_tasks (s : Scenario) (cA cB : Credential) :
    (s.tasks cA cB).filterMap Task.route? = s.plan cA cB := by
  have hcall (t : Target) (c : Credential) : Task.route? (.call t c) = some (t, c) := rfl
  have hwait : Task.route? .wait = none := rfl
  simp only [tasks, plan, List.filterMap_cons, List.filterMap_append, hwait, hcall,
    List.filterMap_replicate_of_some (hcall _ _), List.filterMap_nil]

/-- A run as it ended, with all that it asked. -/
structure PastRun where
  settings : Settings
  result : Except Fault RunResult
  steps : List Step

namespace PastRun

variable (run : PastRun)

/-- The calls of routes that the run had to make. -/
def plan : List (Target × Identity) :=
  run.settings.scenario.plan run.settings.scenario.callerA run.settings.scenario.callerB

/-- A caller was given a token in the run. -/
def Grants (i : Identity) (token : String) : Prop :=
  ∃ url exchange, .sent (run.settings.scenario.auth.request i url) exchange ∈ run.steps ∧
    Reply.Gives exchange.reply token

/-- The calls of routes that the run made are the first of its plan, and each was built for its
    route with a credential that its caller was given. -/
structure Planned : Prop where
  length : (Step.gets run.steps).length ≤ run.plan.length
  made : ∀ p ∈ run.plan.zip (Step.gets run.steps), ∃ token id, run.Grants p.1.2 token ∧
    run.settings.scenario.gateway.build p.1.1 (p.1.2.granted token) id = .ok p.2.request

/-- The calls of the run for a target under an identity that had an outcome. -/
def requests (target identity : String) (o : Outcome) : Nat :=
  countCalls Identity.name run.plan (Step.gets run.steps) target identity o

/-- Whether the run has results. -/
def completed : Bool :=
  match run.result with
  | .ok _ => true
  | .error _ => false

/-- Whether the run has results with that result of a check. -/
def checked (c : Check) : Bool :=
  match run.result with
  | .ok result => result.checks.contains c
  | .error _ => false

/-- Whether a failure of the harness ended the run. -/
def aborted : Bool :=
  match run.result with
  | .error (.harness _) => true
  | _ => false

/-- The waits of the run that came to their end. -/
def alignments : List Alignment := run.settings.scenario.aligner.alignments run.steps

/-- What the run wrote into the metrics is what it should. -/
structure Wrote (calls : List Recording) : Prop where
  requests : ∀ target identity o, calls.count (.request target identity o.name) =
    run.requests target identity o
  checks : ∀ c : Check, calls.count (.check c.label c.passed) = (run.checked c).toNat
  errors : calls.countP Recording.isError = run.aborted.toNat
  waits : (calls.filterMap Recording.seconds?).map some =
    run.alignments.map Alignment.waitSeconds

end PastRun

/-! ## What a run writes -/

/-- The steps neither call a route nor wait. -/
structure Step.Quiet (steps : List Step) : Prop where
  gets : Step.gets steps = []
  untimed : Step.Untimed steps

namespace Step.Quiet

variable {a : Aligner} {steps steps' : List Step}

theorem append (h : Quiet steps) (h' : Quiet steps') : Quiet (steps ++ steps') where
  gets := by rw [gets_append, h.gets, h'.gets]; rfl
  untimed := h.untimed.append h'.untimed

/-- Quiet steps before others show no calls. -/
theorem gets_before (h : Quiet steps) : Step.gets (steps ++ steps') = Step.gets steps' := by
  rw [gets_append, h.gets, List.nil_append]

/-- Nor do they show waits. -/
theorem alignments_before (h : Quiet steps) :
    a.alignments (steps ++ steps') = a.alignments steps' := by
  rw [Aligner.alignments_append (by rw [h.untimed.1, h.untimed.2]; rfl), Aligner.alignments,
    h.untimed.1]
  rfl

end Step.Quiet

theorem quiet_of_begun {begun : List Step} {id : String}
    (h : begun = [] ∨ begun = [.newId id]) : Step.Quiet begun := by
  rcases h with rfl | rfl <;> exact ⟨rfl, rfl, rfl⟩

/-- A login neither calls a route nor waits. -/
theorem LoginService.Attempts.quiet {l : LoginService} {i : Identity} {r : Except Fault Credential}
    {steps : List Step} (h : l.Attempts i r steps) : Step.Quiet steps := by
  cases h with
  | unreadable => exact ⟨rfl, rfl, rfl⟩
  | sent => exact ⟨rfl, rfl, rfl⟩

/-- Credentials go by the names of their callers. -/
theorem Scenario.countCalls_granted (s : Scenario) (tokenA tokenB : String) :
    countCalls Credential.name (s.plan (s.callerA.granted tokenA) (s.callerB.granted tokenB)) =
      countCalls Identity.name (s.plan s.callerA s.callerB) := by
  have hnames : (s.plan (s.callerA.granted tokenA) (s.callerB.granted tokenB)).map
      (Prod.map Target.name Credential.name) =
        (s.plan s.callerA s.callerB).map (Prod.map Target.name Identity.name) := by
    simp only [plan, List.map_append, List.map_cons, List.map_replicate]
    rfl
  funext calls target identity o
  rw [countCalls, hnames, countCalls]

/-- The experiments of a run write what their steps tell. -/
theorem Scenario.Conducts.writes {s : Scenario} {r : Except Fault Findings} {steps : List Step}
    {calls : List Recording} (h : s.Conducts r steps calls) :
    Writes calls (countCalls Identity.name (s.plan s.callerA s.callerB) (Step.gets steps))
      (s.aligner.alignments steps) := by
  -- logins write nothing
  have hlogins {steps : List Step} (hquiet : Step.Quiet steps) :
      Writes [] (countCalls Identity.name (s.plan s.callerA s.callerB) (Step.gets steps))
        (s.aligner.alignments steps) := by
    refine ⟨fun target identity o => ?_, ?_, fun _ h => absurd h List.not_mem_nil⟩
    · rw [hquiet.gets, countCalls_nil]
      rfl
    · rw [Aligner.alignments, hquiet.untimed.1]
      rfl
  cases h with
  | loginA hA => exact hlogins hA.quiet
  | loginB hA hB => exact hlogins (hA.quiet.append hB.quiet)
  | routes hA hB hroutes =>
    have hwrites := hroutes.1.writes
    rw [hA.quiet.alignments_before, hB.quiet.alignments_before, hA.quiet.gets_before,
      hB.quiet.gets_before]
    obtain ⟨_, _, tokenA, -, -, -, rfl⟩ := hA.granted
    obtain ⟨_, _, tokenB, -, -, -, rfl⟩ := hB.granted
    rwa [s.routes_tasks, s.countCalls_granted] at hwrites

/-- Results have one result of each check. -/
theorem Check.count_evaluate (u : Tally) (o : Probe) (a : Tally) (b : Probe) (c : Check) :
    ((evaluate u o a b).map fun c => Recording.check c.label c.passed).count
        (.check c.label c.passed) = ((evaluate u o a b).contains c).toNat := by
  have hinj : Function.Injective fun c : Check => Recording.check c.label c.passed := by
    rintro ⟨l, p⟩ ⟨l', p'⟩ h
    cases h
    rfl
  have hnodup : (evaluate u o a b).Nodup := by
    refine List.Nodup.of_map Check.label ?_
    rw [labels_evaluate]
    decide
  rw [List.count_map_of_injective _ _ hinj, hnodup.count]
  by_cases hc : c ∈ evaluate u o a b <;> simp [hc]

/-- A run writes into the metrics what it should. -/
theorem Settings.Runs.wrote {settings : Settings} {r : Except Fault RunResult} {steps : List Step}
    {calls : List Recording} (h : settings.Runs r steps calls) :
    PastRun.Wrote ⟨settings, r, steps⟩ calls := by
  obtain @⟨begun, steps, r, calls, id, hbegun, h⟩ := h
  have hwrites := h.writes
  have hquiet := quiet_of_begun hbegun
  -- after the experiments neither requests nor waits are written
  have hrequest (target identity : String) (o : Outcome) :
      (Findings.recordings r).count (.request target identity o.name) = 0 := by
    refine List.count_eq_zero.2 fun hmem => ?_
    cases r with
    | ok f => obtain ⟨c, -, ⟨⟩⟩ := List.mem_map.1 hmem
    | error e => cases e <;> first | cases List.mem_singleton.1 hmem | cases hmem
  have hseconds : (Findings.recordings r).filterMap Recording.seconds? = [] := by
    cases r with
    | ok f => rfl
    | error e => cases e <;> rfl
  constructor
  · intro target identity o
    rw [List.count_append, hwrites.requests, hrequest, PastRun.requests, hquiet.gets_before]
    rfl
  · intro c
    rw [List.count_append, hwrites.count_check, Nat.zero_add]
    cases r with
    | ok f => exact Check.count_evaluate _ _ _ _ c
    | error e => cases e <;> rfl
  · rw [List.countP_append, hwrites.countP_isError, Nat.zero_add]
    cases r with
    | ok f => rfl
    | error e => cases e <;> rfl
  · rw [List.filterMap_append, hseconds, List.append_nil, hwrites.waits, PastRun.alignments,
      hquiet.alignments_before]

/-- A run makes its calls as planned. -/
theorem Settings.Runs.planned {settings : Settings} {r : Except Fault RunResult}
    {steps : List Step} {calls : List Recording} (h : settings.Runs r steps calls) :
    PastRun.Planned ⟨settings, r, steps⟩ := by
  let s := settings.scenario
  obtain @⟨begun, steps, r, calls, runId, hbegun, h⟩ := h
  have hbegun := quiet_of_begun hbegun
  -- without a call there is nothing to plan
  have hnone (h : Step.Quiet steps) :
      PastRun.Planned ⟨settings, r.map fun f => f.result runId, begun ++ steps⟩ := by
    constructor
    · rw [hbegun.gets_before, h.gets]
      exact Nat.zero_le _
    · rw [hbegun.gets_before, h.gets, List.zip_nil_right]
      exact fun _ h => absurd h List.not_mem_nil
  cases h with
  | loginA hA => exact hnone hA.quiet
  | loginB hA hB => exact hnone (hA.quiet.append hB.quiet)
  | @routes cA cB _ loginA loginB steps _ hA hB hroutes =>
    obtain ⟨hlength, hbuilt⟩ := hroutes.1.planned
    have hall : Step.gets (begun ++ (loginA ++ (loginB ++ steps))) = Step.gets steps := by
      rw [hbegun.gets_before, hA.quiet.gets_before, hB.quiet.gets_before]
    rw [s.routes_tasks] at hlength hbuilt
    obtain ⟨urlA, exchangeA, tokenA, -, rfl, hgivesA, rfl⟩ := hA.granted
    obtain ⟨urlB, exchangeB, tokenB, -, rfl, hgivesB, rfl⟩ := hB.granted
    -- callers beside the credentials that they were given
    let both := s.plan (s.callerA, s.callerA.granted tokenA) (s.callerB, s.callerB.granted tokenB)
    have hcallers : both.map (Prod.map id Prod.fst) = s.plan s.callerA s.callerB := s.map_plan _ _ _
    have hcredentials : both.map (Prod.map id Prod.snd) =
        s.plan (s.callerA.granted tokenA) (s.callerB.granted tokenB) := s.map_plan _ _ _
    constructor
    · rw [hall]
      refine Nat.le_trans hlength (Nat.le_of_eq ?_)
      rw [PastRun.plan, ← hcallers, ← hcredentials, List.length_map, List.length_map]
    · rw [hall, PastRun.plan, ← hcallers, List.zip_map_left]
      intro p hp
      obtain ⟨⟨⟨t, i, c⟩, call⟩, hmem, rfl⟩ := List.mem_map.1 hp
      have hmem' : ((t, c), call) ∈ (both.map (Prod.map id Prod.snd)).zip (Step.gets steps) := by
        rw [List.zip_map_left]
        exact List.mem_map.2 ⟨_, hmem, rfl⟩
      rw [hcredentials] at hmem'
      obtain ⟨reqId, hbuild⟩ := hbuilt _ hmem'
      rcases Scenario.mem_plan (List.of_mem_zip hmem).1 with hx | hx <;> cases hx
      · refine ⟨tokenA, reqId, ⟨urlA, exchangeA, ?_, hgivesA⟩, hbuild⟩
        exact List.mem_append_right _ List.mem_cons_self
      · refine ⟨tokenB, reqId, ⟨urlB, exchangeB, ?_, hgivesB⟩, hbuild⟩
        exact List.mem_append_right _ (List.mem_cons_of_mem _ List.mem_cons_self)

/-! ## What the results of a run say -/

/-- The count of an outcome. -/
def Tally.count (t : Tally) : Outcome → Int
  | .allowed => t.allowed
  | .throttled => t.throttled
  | .other => t.other

/-- The classes of statuses. -/
def Outcome.classes (ss : List (Option Int)) : List (Option Outcome) :=
  ss.map fun s => some (ofStatus s)

theorem Tally.count_ofStatuses (ss : List (Option Int)) (o : Outcome) :
    (ofStatuses ss).count o = (Outcome.classes ss).count (some o) := by
  have hsome : (Outcome.classes ss).count (some o) = (ss.map Outcome.ofStatus).count o := by
    have := List.count_map_of_injective (ss.map Outcome.ofStatus) some (Option.some_injective _) o
    rwa [List.map_map] at this
  rw [hsome]
  cases o <;> rfl

/-- The results of a run account for what it wrote into the metrics. -/
structure PastRun.Accounts (run : PastRun) (result : RunResult) : Prop where
  usersA : ∀ o, (run.requests "users" "a" o : Int) =
    result.usersBurst.count o + result.tokenABurst.count o
  ordersA : ∀ o, (run.requests "orders" "a" o : Int) =
    if result.ordersProbe.outcome = o then 1 else 0
  usersB : ∀ o, (run.requests "users" "b" o : Int) =
    if result.tokenBProbe.outcome = o then 1 else 0
  alignments : result.alignments = run.alignments

theorem Performs.outcomes {a : Aligner} {g : GatewayClient} {tasks : List Task} {steps : List Step}
    {calls : List Recording} (h : Performs a g tasks (.ok ()) steps calls) :
    (Step.gets steps).map Call.outcome? = Outcome.classes (Step.statuses steps) := by
  generalize hr : (.ok () : Except Fault Unit) = r at h
  induction h with
  | done => rfl
  | next hdone _ ih =>
    rw [Step.gets_append, List.map_append, Step.statuses_append, Outcome.classes, List.map_append,
      ih hr]
    cases hdone with
    | wait => rfl
    | @call t c id request exchange hbuild hreply =>
      let call : Call := ⟨request, exchange.reply⟩
      have hgets : Step.gets [.newId id, .sent request exchange] = [call] :=
        g.gets_call t c hbuild exchange
      have houtcome : call.outcome? = some (.ofStatus call.status) :=
        Call.outcome?_of_answered hreply
      have hstatus : Step.statuses [.newId id, .sent request exchange] = [call.status] :=
        congrArg (List.map Call.status) hgets
      rw [hgets, hstatus, List.map_singleton, List.map_singleton, houtcome]
      rfl
  | stop => cases hr

theorem count_zip_replicate {κ ι : Type} [BEq κ] [BEq ι] (x y : κ) (v : ι) (l : List ι) :
    ((List.replicate l.length x).zip l).count (y, v) = if x == y then l.count v else 0 := by
  induction l with
  | nil => simp
  | cons u l ih =>
    rw [List.length_cons, List.replicate_succ, List.zip_cons_cons, List.count_cons, ih,
      List.count_cons]
    cases h : x == y <;> simp [BEq.beq, h]

/-- Where the plan of a run is carried out to its end, its calls are counted by burst and probe. -/
theorem Scenario.countCalls_plan (s : Scenario) {calls : List Call}
    {burstA burstB : List (Option Int)} {probeA probeB : Option Int}
    (hA : burstA.length = s.burstRequests.toNat) (hB : burstB.length = s.burstRequests.toNat)
    (hcalls : calls.map Call.outcome? =
      Outcome.classes (burstA ++ probeA :: (burstB ++ [probeB])))
    (target identity : String) (o : Outcome) :
    (countCalls Identity.name (s.plan s.callerA s.callerB) calls target identity o : Int) =
      (if s.users.name = target ∧ s.callerA.name = identity then
        (Tally.ofStatuses burstA).count o + (Tally.ofStatuses burstB).count o else 0) +
      (if s.orders.name = target ∧ s.callerA.name = identity ∧ Outcome.ofStatus probeA = o then 1
        else 0) +
      (if s.users.name = target ∧ s.callerB.name = identity ∧ Outcome.ofStatus probeB = o then 1
        else 0) := by
  have hplan : (s.plan s.callerA s.callerB).map (Prod.map Target.name Identity.name) =
      .replicate (Outcome.classes burstA).length (s.users.name, s.callerA.name) ++
        (s.orders.name, s.callerA.name) ::
          (.replicate (Outcome.classes burstB).length (s.users.name, s.callerA.name) ++
            [(s.users.name, s.callerB.name)]) := by
    simp [plan, Outcome.classes, hA, hB]
  have hreplies : calls.map Call.outcome? = Outcome.classes burstA ++ some (Outcome.ofStatus probeA) ::
      (Outcome.classes burstB ++ [some (Outcome.ofStatus probeB)]) := by
    rw [hcalls, Outcome.classes, List.map_append, List.map_cons, List.map_append]
    rfl
  rw [countCalls, hplan, hreplies, List.zip_append List.length_replicate, List.zip_cons_cons,
    List.zip_append List.length_replicate]
  simp only [List.count_append, List.count_cons, count_zip_replicate, List.zip_cons_cons,
    List.zip_nil_left, List.count_nil, beq_iff_eq, Prod.mk.injEq, Option.some.injEq, and_assoc]
  rw [Tally.count_ofStatuses, Tally.count_ofStatuses]
  push_cast
  split_ifs <;> omega

/-- Results account for their run. -/
theorem Settings.Runs.accounts {settings : Settings} {result : RunResult} {steps : List Step}
    {calls : List Recording} (h : settings.Runs (.ok result) steps calls) :
    PastRun.Accounts ⟨settings, .ok result, steps⟩ result := by
  let s := settings.scenario
  obtain ⟨runId, f, begun, steps', calls', rfl, rfl, hbegun, -, h⟩ := h.ok_conducts
  obtain ⟨cA, cB, loginA, loginB, routes, rfl, hA, hB, hroutes, htells⟩ := h.of_ok
  obtain ⟨burstA, probeA, burstB, probeB, hstatuses, hlengthA, hlengthB, hbursts⟩ := htells.replies
  obtain ⟨hburstA, hprobeA, hburstB, hprobeB⟩ := hbursts
  have hbegun := quiet_of_begun hbegun
  have hgets : Step.gets (begun ++ (loginA ++ (loginB ++ routes))) = Step.gets routes := by
    rw [hbegun.gets_before, hA.quiet.gets_before, hB.quiet.gets_before]
  have hcount (target identity : String) (o : Outcome) := s.countCalls_plan hlengthA hlengthB
    (hroutes.outcomes.trans (congrArg Outcome.classes hstatuses)) target identity o
  have hrequests (target identity : String) (o : Outcome) :
      PastRun.requests ⟨settings, .ok (f.result runId), begun ++ (loginA ++ (loginB ++ routes))⟩
        target identity o =
      countCalls Identity.name (s.plan s.callerA s.callerB) (Step.gets routes) target identity o := by
    rw [PastRun.requests, hgets]
    rfl
  have hnames : s.users.name = "users" ∧ s.orders.name = "orders" ∧ s.callerA.name = "a" ∧
      s.callerB.name = "b" := ⟨rfl, rfl, rfl, rfl⟩
  obtain ⟨husers, horders, hcallerA, hcallerB⟩ := hnames
  rw [husers, horders, hcallerA, hcallerB] at hcount
  constructor
  · intro o
    rw [hrequests, hcount]
    simp [Findings.result, hburstA, hburstB]
  · intro o
    rw [hrequests, hcount]
    simp [Findings.result, hprobeA, Probe.outcome]
  · intro o
    rw [hrequests, hcount]
    simp [Findings.result, hprobeB, Probe.outcome]
  · have hwaits : s.aligner.alignments (begun ++ (loginA ++ (loginB ++ routes))) =
        s.aligner.alignments routes := by
      rw [hbegun.alignments_before, hA.quiet.alignments_before, hB.quiet.alignments_before]
    exact htells.alignments.trans hwaits.symm

/-- Of each check there is one result. -/
theorem Check.decided {label : String} (h : label ∈ labels) (u : Tally) (o : Probe) (a : Tally)
    (b : Probe) :
    ((evaluate u o a b).contains ⟨label, true⟩).toNat +
      ((evaluate u o a b).contains ⟨label, false⟩).toNat = 1 := by
  rw [← labels_evaluate u o a b] at h
  obtain ⟨⟨_, passed⟩, hc, rfl⟩ := List.mem_map.1 h
  have hnodup : ((evaluate u o a b).map label).Nodup := by
    rw [labels_evaluate]
    decide
  have hother {p : Bool} (hp : (⟨_, p⟩ : Check) ∈ evaluate u o a b) : p = passed :=
    congrArg Check.passed (List.inj_on_of_nodup_map hnodup hp hc rfl)
  cases passed
  · have : ¬ (⟨_, true⟩ : Check) ∈ evaluate u o a b := fun hp => Bool.noConfusion (hother hp)
    simp [hc, this]
  · have : ¬ (⟨_, false⟩ : Check) ∈ evaluate u o a b := fun hp => Bool.noConfusion (hother hp)
    simp [hc, this]

/-- Results have one result of each check. -/
theorem Settings.Runs.decided {settings : Settings} {r : Except Fault RunResult}
    {steps : List Step} {calls : List Recording} (h : settings.Runs r steps calls) {label : String}
    (hlabel : label ∈ Check.labels) :
    let run : PastRun := ⟨settings, r, steps⟩
    (run.checked ⟨label, true⟩).toNat + (run.checked ⟨label, false⟩).toNat =
      run.completed.toNat := by
  cases r with
  | error e => rfl
  | ok result =>
    obtain ⟨runId, f, _, _, _, rfl, -⟩ := h.ok_conducts
    exact Check.decided hlabel _ _ _ _

end RateIsolation
