/-
  A burst, request by request.

  * `Reply.Falls reply o`: a reply is of one of three classes, and of one only;
  * `Round` is one request of a burst with what came of it: `Round.steps` is what
    the outside was asked, `Round.notes` what was logged, `Round.recording` what was
    counted; `GatewayClient.rounds` are those of a burst against some outside;
  * `GatewayClient.run_repeated`: requests in a row lead the session through their
    rounds (`Session.through`), whatever was logged before; `through_through` puts
    rounds together;
  * `burst_partitions`: a burst of less than one request does nothing; any other is
    as many rounds, counted by class; and two bursts in a row count as one.
-/
import RateIsolation.Proofs.Sending
import RateIsolation.Proofs.Trace

namespace RateIsolation

open Harness

variable {σ : Type}

/-! ## Classes of replies -/

/-- The class that a reply falls into: that of its status, or the last one without an answer. -/
inductive Reply.Falls : Reply → Outcome → Prop
  | allowed {r : Response} (h : r.status = 200) : Falls (.ok r) .allowed
  | throttled {r : Response} (h : r.status = 429) : Falls (.ok r) .throttled
  | other {r : Response} (hallowed : r.status ≠ 200) (hthrottled : r.status ≠ 429) :
    Falls (.ok r) .other
  | failed {kind : TransportFailure} {message : String} :
    Falls (.error (.transport kind message)) .other

theorem Outcome.ofStatus_eq_other {v : Int} :
    Outcome.ofStatus (some v) = .other ↔ v ≠ 200 ∧ v ≠ 429 := by
  unfold Outcome.ofStatus
  split <;> simp_all

/-- No reply is of two classes. -/
theorem Reply.Falls.unique {reply : Reply} {o p : Outcome} (ho : reply.Falls o)
    (hp : reply.Falls p) : o = p := by
  cases ho <;> cases hp <;> first | rfl | omega

/-! ## Rounds -/

/-- One request of a burst: the id that it got, and what came of it. -/
structure Round where
  id : String
  exchange : Exchange

namespace Round

/-- The reply. -/
def reply (r : Round) : Reply := r.exchange.reply

/-- The status of the reply, none where the transport failed. -/
def status (r : Round) : Option Int :=
  match r.reply with
  | .ok answer => some answer.status
  | .error _ => none

/-- The class of the reply. -/
def outcome (r : Round) : Outcome := .ofStatus r.status

/-- Whether the transport failed. -/
def failed (r : Round) : Bool :=
  match r.reply with
  | .error (.transport _ _) => true
  | _ => false

/-- What the outside was asked: an id, and the request under it. -/
def steps (g : GatewayClient) (c : Credential) (url : Url) (r : Round) : List Step :=
  [.newId r.id, .sent (g.request c r.id url) r.exchange]

/-- What is logged of a reply: a warning where the transport failed. -/
def warnings (t : Target) (r : Round) : List LogNote :=
  match r.reply with
  | .error (.transport kind message) => [⟨GatewayClient.logger, .warning, "Gateway request failed",
      [("target", .text t.name), ("request_id", .text r.id), ("error_type", .text kind.name),
        ("error", .text message)]⟩]
  | _ => []

/-- All that is logged: what a gateway inside the process writes, then the warning. -/
def notes (t : Target) (r : Round) : List LogNote := r.exchange.notes ++ r.warnings t

/-- What is counted. -/
def recording (t : Target) (c : Credential) (r : Round) : Recording :=
  .request t.name c.name r.outcome.name

/-- What is answered, or fails in its transport, falls into the class of its status. -/
theorem falls (r : Round) (h : Reply.Answered r.reply) : r.reply.Falls r.outcome := by
  rcases r with ⟨id, reply, notes⟩
  match reply, h with
  | .ok answer, _ =>
    show Reply.Falls (.ok answer) (.ofStatus (some answer.status))
    by_cases hallowed : answer.status = 200
    · rw [hallowed]
      exact .allowed hallowed
    by_cases hthrottled : answer.status = 429
    · rw [hthrottled]
      exact .throttled hthrottled
    · rw [Outcome.ofStatus_eq_other.2 ⟨hallowed, hthrottled⟩]
      exact .other hallowed hthrottled
  | .error (.transport kind message), _ => exact .failed

/-- It falls into no other class. -/
theorem falls_iff (r : Round) (h : Reply.Answered r.reply) (o : Outcome) :
    r.reply.Falls o ↔ o = r.outcome := by
  refine ⟨fun ho => ho.unique (r.falls h), ?_⟩
  rintro rfl
  exact r.falls h

/-- There is one warning for each failure of the transport. -/
theorem length_warnings (t : Target) (rounds : List Round) :
    (rounds.flatMap (warnings t)).length = rounds.countP failed := by
  induction rounds with
  | nil => rfl
  | cons r rounds ih =>
    rw [List.flatMap_cons, List.length_append, ih, List.countP_cons, Nat.add_comm]
    congr 1
    unfold warnings failed
    split <;> rfl

/-- Where warnings are written, each of them is. -/
theorem records_warnings {s : Session σ} (t : Target) (rounds : List Round)
    (h : s.logging.enabled GatewayClient.logger .warning = true) :
    (s.records (rounds.flatMap (warnings t))).length = rounds.countP failed := by
  have hall : ∀ n ∈ rounds.flatMap (warnings t), s.logging.enabled n.logger n.severity = true := by
    intro n hn
    obtain ⟨r, -, hn⟩ := List.mem_flatMap.1 hn
    unfold warnings at hn
    split at hn
    · rw [List.mem_singleton.1 hn]
      exact h
    · cases hn
  rw [Session.records, List.length_map, List.filter_eq_self.2 hall, length_warnings]

end Round

namespace GatewayClient

variable (w : World σ) (g : GatewayClient) (c : Credential) (url : Url)

/-- Requests for a route one after another: the rounds, and the state of the outside after them. -/
def rounds : Nat → σ → List Round × σ
  | 0, st => ([], st)
  | n + 1, st =>
    let id := w.newId st
    let answer := w.send (g.request c id.1 url) id.2
    let rest := rounds n answer.2
    (⟨id.1, answer.1⟩ :: rest.1, rest.2)

theorem length_rounds (n : Nat) (st : σ) : (g.rounds w c url n st).1.length = n := by
  induction n generalizing st with
  | zero => rfl
  | succ n ih => simp [rounds, ih]

theorem rounds_answered (hw : ∀ request st, Reply.Answered (w.send request st).1.reply)
    (n : Nat) (st : σ) : ∀ r ∈ (g.rounds w c url n st).1, Reply.Answered r.reply := by
  induction n generalizing st with
  | zero => exact fun _ h => absurd h List.not_mem_nil
  | succ n ih => exact List.forall_mem_cons.2 ⟨hw _ _, ih _⟩

/-- In its rounds the outside is asked for their ids and their requests, and for nothing else. -/
theorem rounds_traced (n : Nat) (st : Traced σ) :
    (g.rounds w.traced c url n st).2.2 =
      st.2 ++ (g.rounds w.traced c url n st).1.flatMap (Round.steps g c url) := by
  induction n generalizing st with
  | zero => exact (List.append_nil _).symm
  | succ n ih =>
    rw [rounds]
    dsimp only
    rw [ih, List.flatMap_cons, ← List.append_assoc]
    congr 1
    exact List.append_assoc st.2 [_] [_]

end GatewayClient

/-! ## What rounds leave -/

/-- The session after rounds that led the outside to a state. -/
def Session.through (s : Session σ) (t : Target) (c : Credential) (rounds : List Round) (st : σ) :
    Session σ :=
  { s.logged (rounds.flatMap (Round.notes t)) with
    world := st
    metrics := s.metrics.map (Metrics.recordAll · (rounds.map (Round.recording t c))) }

namespace Session

variable (s : Session σ) (t : Target) (c : Credential)

theorem through_nil : s.through t c [] s.world = s := by
  show { s.logged [] with metrics := s.metrics.map (Metrics.recordAll · []) } = s
  rw [logged_nil, recordAll_nil]

/-- Rounds after rounds. -/
theorem through_through (rounds rounds' : List Round) (st st' : σ) :
    (s.through t c rounds st).through t c rounds' st' = s.through t c (rounds ++ rounds') st' := by
  have hentries : (s.through t c rounds st).entries ++
      s.records (rounds'.flatMap (Round.notes t)) =
        s.entries ++ s.records ((rounds ++ rounds').flatMap (Round.notes t)) := by
    rw [List.flatMap_append, records_append, ← List.append_assoc]
    rfl
  have hmetrics : (s.through t c rounds st).metrics.map
      (Metrics.recordAll · (rounds'.map (Round.recording t c))) =
        s.metrics.map (Metrics.recordAll · ((rounds ++ rounds').map (Round.recording t c))) := by
    rw [List.map_append]
    show (s.metrics.map _).map _ = _
    rw [Option.map_map]
    congr 1
    funext m
    exact (m.recordAll_append _ _).symm
  show ({ s with
      world := st'
      entries := (s.through t c rounds st).entries ++ s.records (rounds'.flatMap (Round.notes t))
      metrics := (s.through t c rounds st).metrics.map
        (Metrics.recordAll · (rounds'.map (Round.recording t c))) } : Session σ) = _
  rw [hentries, hmetrics]
  rfl

end Session

/-! ## Bursts -/

namespace GatewayClient

variable {w : World σ} (g : GatewayClient) {t : Target} {c : Credential} {url : Url}

theorem run_statusOf (r : Round) (h : Reply.Answered r.reply) (s : Session σ) :
    (statusOf t r.id r.reply).run.run s = (.ok r.status, s.logged (r.warnings t)) := by
  rcases r with ⟨id, reply, notes⟩
  match reply, h with
  | .ok answer, _ => exact congrArg _ s.logged_nil.symm
  | .error (.transport kind message), _ => exact run_bind_of_ok (run_log s _ _ _ _)

/-- A request that is counted is one round. -/
theorem run_counted (hw : ∀ request st, Reply.Answered (w.send request st).1.reply)
    (hbuild : ∀ id, g.build t c id = .ok (g.request c id url)) (s : Session σ) :
    ∃ r st, g.rounds w c url 1 s.world = ([r], st) ∧
      (g.counted w t c).run.run s = (.ok r.status, s.through t c [r] st) := by
  let id := w.newId s.world
  let answer := w.send (g.request c id.1 url) id.2
  let r : Round := ⟨id.1, answer.1⟩
  refine ⟨r, answer.2, rfl, ?_⟩
  have hcall : (g.call w t c).run.run s =
      (.ok r.status, { s with world := answer.2 }.logged (r.notes t)) := by
    have hid : (newId w).run.run s = (.ok id.1, { s with world := id.2 }) := rfl
    have hsend := run_send { s with world := id.2 } w (g.request c id.1 url)
    have hstatus := run_statusOf (t := t) r (hw _ _)
      ({ s with world := answer.2 }.logged answer.1.notes)
    rw [Session.logged_logged] at hstatus
    rw [call, run_bind_of_ok hid, hbuild]
    show (send w _ >>= fun reply => statusOf t id.1 reply).run.run _ = _
    rw [run_bind_of_ok hsend]
    exact hstatus
  rw [counted, run_bind_of_ok hcall, Session.through, List.flatMap_singleton]
  rfl

/-- **Requests in a row are rounds.**  Whatever was logged and counted before, they lead the session
    through the rounds that the outside makes of them. -/
theorem run_repeated (hw : ∀ request st, Reply.Answered (w.send request st).1.reply)
    (hbuild : ∀ id, g.build t c id = .ok (g.request c id url)) (n : Nat) (s : Session σ) :
    (g.repeated w t c n).run.run s =
      (.ok ((g.rounds w c url n s.world).1.map Round.outcome),
        s.through t c (g.rounds w c url n s.world).1 (g.rounds w c url n s.world).2) := by
  induction n generalizing s with
  | zero => exact congrArg _ (s.through_nil t c).symm
  | succ n ih =>
    obtain ⟨r, st, hround, hrun⟩ := g.run_counted hw hbuild s
    have hrounds : g.rounds w c url (n + 1) s.world =
        (r :: (g.rounds w c url n st).1, (g.rounds w c url n st).2) := by
      simp only [rounds, Prod.mk.injEq, List.cons.injEq, and_true] at hround ⊢
      obtain ⟨rfl, rfl⟩ := hround
      exact ⟨⟨rfl, rfl⟩, rfl⟩
    rw [repeated, run_bind_of_ok hrun, run_bind_of_ok (ih _), hrounds, Session.through_through]
    rfl

end GatewayClient

/-! ## Bursts, counted -/

theorem Sendable.exists_build {t : Target} {c : Credential} (h : Sendable t c) :
    ∃ url, Url.resolve t.url = .ok url ∧
      ∀ (g : GatewayClient) (id : String), g.build t c id = .ok (g.request c id url) := by
  obtain ⟨⟨url, hurl⟩, htoken⟩ := h
  exact ⟨url, hurl, fun g => g.build_eq_ok hurl htoken⟩

namespace GatewayClient

variable {w : World σ} (g : GatewayClient) {t : Target} {c : Credential} {url : Url}

/-- What is logged at the end of a burst. -/
def closing (t : Target) (c : Credential) (count : Int) (tally : Tally) : LogNote :=
  ⟨logger, .info, "Burst complete", [("target", .text t.name), ("identity", .text c.name),
    ("count", .int count)] ++ tally.fields⟩

theorem run_burst (hw : ∀ request st, Reply.Answered (w.send request st).1.reply)
    (hbuild : ∀ id, g.build t c id = .ok (g.request c id url)) {count : Int} (hcount : 1 ≤ count)
    (s : Session σ) :
    (g.burst w t c count).run.run s =
      let rounds := g.rounds w c url count.toNat s.world
      let tally := Tally.ofOutcomes (rounds.1.map Round.outcome)
      (.ok tally, (s.through t c rounds.1 rounds.2).logged [closing t c count tally]) := by
  rw [burst, if_neg (by omega), run_bind_of_ok (g.run_repeated hw hbuild _ s),
    run_bind_of_ok (run_log _ _ _ _ _)]
  rfl

theorem rounds_add (w : World σ) (c : Credential) (url : Url) (m n : Nat) (st : σ) :
    g.rounds w c url (m + n) st =
      ((g.rounds w c url m st).1 ++ (g.rounds w c url n (g.rounds w c url m st).2).1,
        (g.rounds w c url n (g.rounds w c url m st).2).2) := by
  induction m generalizing st with
  | zero => simp [rounds]
  | succ m ih => simp [Nat.add_right_comm m 1 n, rounds, ih]

/-- A burst from one session to another: its rounds, each with its class, and their counts. -/
structure Counts (t : Target) (c : Credential) (url : Url) (count : Int) (s : Session (Traced σ))
    (rounds : List Round) (outcomes : List Outcome) (tally : Tally) (s' : Session (Traced σ)) :
    Prop where
  length : (rounds.length : Int) = count
  /-- Each reply is of one class, and of no other. -/
  classes : List.Forall₂ (fun r o => ∀ p, r.reply.Falls p ↔ p = o) rounds outcomes
  allowed : tally.allowed = outcomes.count .allowed
  throttled : tally.throttled = outcomes.count .throttled
  other : tally.other = outcomes.count .other
  total : tally.allowed + tally.throttled + tally.other = count
  /-- Each round takes an id and sends one request, and nothing else is asked. -/
  asked : s'.world.2 = s.world.2 ++ rounds.flatMap (Round.steps g c url)
  recorded : s'.metrics = s.metrics.map (Metrics.recordAll ·
    (outcomes.map fun o => .request t.name c.name o.name))
  logged : s'.entries =
    s.entries ++ s.records (rounds.flatMap (Round.notes t) ++ [closing t c count tally])
  /-- Where warnings are written, there is one record of them for each failure of the transport. -/
  warned : s.logging.enabled logger .warning = true →
    (s.records (rounds.flatMap (Round.warnings t))).length = rounds.countP Round.failed
  kept : s'.context = s.context ∧ s'.logging = s.logging ∧ s'.printed = s.printed ∧
    s'.opened = s.opened

/-- What was counted in a burst that came to its end. -/
theorem counts_burst (hw : ∀ request st, Reply.Answered (w.send request st).1.reply)
    (hbuild : ∀ id, g.build t c id = .ok (g.request c id url)) {count : Int} (hcount : 1 ≤ count)
    (s : Session (Traced σ)) :
    ∃ rounds outcomes tally s', (g.burst w.traced t c count).run.run s = (.ok tally, s') ∧
      g.Counts t c url count s rounds outcomes tally s' := by
  have hanswered : ∀ request st, Reply.Answered (w.traced.send request st).1.reply :=
    fun request st => hw request st.1
  let rounds := g.rounds w.traced c url count.toNat s.world
  let outcomes := rounds.1.map Round.outcome
  have hlength : (rounds.1.length : Int) = count := by
    rw [g.length_rounds]
    omega
  refine ⟨rounds.1, outcomes, .ofOutcomes outcomes, _, g.run_burst hanswered hbuild hcount s,
    { length := hlength, classes := ?_, allowed := rfl, throttled := rfl, other := rfl, total := ?_,
      asked := ?_, recorded := ?_, logged := ?_, warned := Round.records_warnings t _,
      kept := ⟨rfl, rfl, rfl, rfl⟩ }⟩
  · rw [List.forall₂_map_right_iff, List.forall₂_same]
    intro r hr
    exact r.falls_iff (g.rounds_answered _ c url hanswered _ _ r hr)
  · exact (Tally.total_ofOutcomes outcomes).trans (by rw [List.length_map, hlength])
  · exact g.rounds_traced w c url count.toNat s.world
  · show s.metrics.map (Metrics.recordAll · (rounds.1.map (Round.recording t c))) = _
    rw [List.map_map]
    rfl
  · show s.entries ++ s.records _ ++ s.records _ = _
    rw [List.append_assoc, ← Session.records_append]

/-- Two bursts in a row count together what one of as many requests counts. -/
theorem burst_append (hw : ∀ request st, Reply.Answered (w.send request st).1.reply)
    (hbuild : ∀ id, g.build t c id = .ok (g.request c id url)) {i j : Int} (hi : 1 ≤ i)
    (hj : 1 ≤ j) (s : Session σ) :
    ∃ first second s₁ s₂ s', (g.burst w t c i).run.run s = (.ok first, s₁) ∧
      (g.burst w t c j).run.run s₁ = (.ok second, s₂) ∧
      (g.burst w t c (i + j)).run.run s = (.ok (first.plus second), s') ∧
      s'.world = s₂.world ∧ s'.metrics = s₂.metrics := by
  have hadd : (i + j).toNat = i.toNat + j.toNat := Int.toNat_add (by omega) (by omega)
  have hboth := g.run_burst hw hbuild (show 1 ≤ i + j by omega) s
  rw [hadd, g.rounds_add] at hboth
  simp only [List.map_append, Tally.ofOutcomes_append] at hboth
  let before := g.rounds w c url i.toNat s.world
  let after := g.rounds w c url j.toNat before.2
  have hmetrics := congrArg Session.metrics
    (s.through_through t c before.1 after.1 before.2 after.2)
  -- what the first burst logs at its end changes neither the outside nor the metrics
  exact ⟨_, _, _, _, _, g.run_burst hw hbuild hi s, g.run_burst hw hbuild hj _, hboth, rfl,
    hmetrics.symm⟩

end GatewayClient

/-- **A burst counts each of its requests in one class.**  Against any outside that answers or fails
    in its transport, where the address of the route can be read and the token is ASCII: a burst of
    less than one request is refused, and the session is left as it was; any other sends that many
    requests one after another and counts them by class, with a warning for each failure of the
    transport; and two bursts in a row count together what one burst of as many requests counts. -/
theorem burst_partitions {w : World σ}
    (hw : ∀ request st, Reply.Answered (w.send request st).1.reply) (g : GatewayClient)
    {t : Target} {c : Credential} (hsend : Sendable t c) (s : Session (Traced σ)) :
    (∀ count < 1, (g.burst w.traced t c count).run.run s =
      (.error (.harness (.validation "burst count must be at least 1"
        (.record [("count", .int count)]))), s)) ∧
    ∃ url, Url.resolve t.url = .ok url ∧
      (∀ count, 1 ≤ count → ∃ rounds outcomes tally s',
        (g.burst w.traced t c count).run.run s = (.ok tally, s') ∧
        g.Counts t c url count s rounds outcomes tally s') ∧
      ∀ i j, 1 ≤ i → 1 ≤ j → ∃ first second s₁ s₂ s',
        (g.burst w.traced t c i).run.run s = (.ok first, s₁) ∧
        (g.burst w.traced t c j).run.run s₁ = (.ok second, s₂) ∧
        (g.burst w.traced t c (i + j)).run.run s = (.ok (first.plus second), s') ∧
        s'.world = s₂.world ∧ s'.metrics = s₂.metrics := by
  obtain ⟨url, hurl, hbuild⟩ := hsend.exists_build
  refine ⟨?_, url, hurl, ?_, ?_⟩
  · intro count hcount
    rw [GatewayClient.burst, if_pos hcount]
    rfl
  · intro count hcount
    exact g.counts_burst hw (hbuild g) hcount s
  · intro i j hi hj
    exact g.burst_append (fun request st => hw request st.1) (hbuild g) hi hj s

/-- An outside that serves every third request, refuses the next, and then does not answer. -/
def World.wavering : World Nat :=
  { World.serving with
    send := fun _ n =>
      (⟨match n % 3 with
        | 0 => .ok { status := 200 }
        | 1 => .ok { status := 429 }
        | _ => .error (.transport .connect "refused"), []⟩, n + 1)
    newId := fun n => (toString n, n) }

theorem World.wavering_answers (request : Request) (n : Nat) :
    Reply.Answered (World.wavering.send request n).1.reply := by
  show Reply.Answered (match n % 3 with
    | 0 => _
    | 1 => _
    | _ => _)
  split <;> trivial

/-- A burst of four against it counts two requests that were served and one of each other class. -/
theorem burst_partitions_wavering :
    ∃ rounds outcomes tally s',
      ((Settings.ofWindow 1000).scenario.gateway.burst World.wavering.traced
        (Settings.ofWindow 1000).scenario.users
        ((Settings.ofWindow 1000).scenario.callerA.granted "t") 4).run.run
          { world := (0, []) } = (.ok tally, s') ∧
      (Settings.ofWindow 1000).scenario.gateway.Counts (Settings.ofWindow 1000).scenario.users
        ((Settings.ofWindow 1000).scenario.callerA.granted "t")
        (Url.local 8085 "/api/v1/users") 4 { world := (0, []) } rounds outcomes tally s' ∧
      tally = ⟨2, 1, 1⟩ := by
  have htoken := (World.serving_grants (Settings.ofWindow 1000).scenario.auth
    (Settings.ofWindow 1000).scenario.callerA (Url.local 8084 "/auth/login") 0).ascii
  have hsend : Sendable (Settings.ofWindow 1000).scenario.users
      ((Settings.ofWindow 1000).scenario.callerA.granted "t") :=
    ⟨⟨_, Settings.resolve_users 1000⟩, htoken⟩
  obtain ⟨-, url, hurl, hbursts, -⟩ := burst_partitions World.wavering_answers
    (Settings.ofWindow 1000).scenario.gateway hsend { world := (0, []) }
  obtain ⟨rounds, outcomes, tally, s', hrun, hcounts⟩ := hbursts 4 (by decide)
  obtain rfl : url = Url.local 8085 "/api/v1/users" :=
    Except.ok.inj (hurl.symm.trans (Settings.resolve_users 1000))
  refine ⟨rounds, outcomes, tally, s', hrun, hcounts, ?_⟩
  obtain ⟨url, -, hbuild⟩ := hsend.exists_build
  have hw (request : Request) (st : Traced Nat) :
      Reply.Answered (World.wavering.traced.send request st).1.reply :=
    World.wavering_answers request st.1
  have hvalue := (Settings.ofWindow 1000).scenario.gateway.run_burst hw (hbuild _)
    (by decide : (1 : Int) ≤ 4) { world := (0, []) }
  exact Except.ok.inj (Prod.mk.inj (hrun.symm.trans hvalue)).1

end RateIsolation
