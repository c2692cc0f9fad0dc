/-
  What a run does to the outside, request by request.

  * `Experiment` is a reading of the clock, a sleep, a burst and a probe, and
    `Transcript` two logins and two experiments;
  * `World.Spends used` says that no id is given twice, whatever happens
    between;
  * `run_transcript`: a run of accepted settings against any outside that
    answers is a `Transcript` that `Conforms`, and its results are those of the
    replies, unless a wait is too long for a number of seconds.
-/
import Mathlib.Data.List.Nodup
import RateIsolation.Proofs.Accepted
import RateIsolation.Proofs.Run

namespace RateIsolation

open Harness

variable {σ : Type}

/-! ## Transcripts -/

/-- One experiment: a wait, a burst and a probe. -/
structure Experiment where
  /-- The clock before the wait. -/
  reading : Int
  /-- The time that was slept. -/
  slept : Seconds
  burst : List Call
  probe : Call

namespace Experiment

/-- The experiment as it is recorded. -/
def events (e : Experiment) : List WorldEvent :=
  .readClock e.reading :: .slept e.slept :: (e.burst.map Call.event ++ [e.probe.event])

/-- The requests of an experiment with their replies. -/
def calls (e : Experiment) : List Call := e.burst ++ [e.probe]

end Experiment

/-- A whole run: two logins and two experiments. -/
structure Transcript where
  loginA : Call
  loginB : Call
  first : Experiment
  second : Experiment

namespace Transcript

/-- The run as it is recorded. -/
def events (t : Transcript) : List WorldEvent :=
  t.loginA.event :: t.loginB.event :: (t.first.events ++ t.second.events)

/-- The calls of routes, in order. -/
def gets (t : Transcript) : List Call := t.first.calls ++ t.second.calls

/-- All requests with their replies, in order. -/
def calls (t : Transcript) : List Call := t.loginA :: t.loginB :: t.gets

end Transcript

/-! ## New ids -/

/-- No id is given twice, whatever happens between: `used st` are those that were given. -/
structure World.Spends (w : World σ) (used : σ → String → Prop) : Prop where
  fresh : ∀ st, ¬ used st (w.newId st).1
  spent : ∀ st, used (w.newId st).2 (w.newId st).1
  newId : ∀ st id, used st id → used (w.newId st).2 id
  readClock : ∀ st id, used st id → used (w.readClock st).2 id
  sleep : ∀ time st id, used st id → used (w.sleep time st).2 id
  send : ∀ request st id, used st id → used (w.send request st).2 id

/-- The ids that were given on the way from one state to another. -/
structure Gives (used : σ → String → Prop) (st : σ) (ids : List String) (st' : σ) : Prop where
  keeps : ∀ id, used st id → used st' id
  distinct : ids.Nodup
  fresh : ∀ id ∈ ids, ¬ used st id
  spent : ∀ id ∈ ids, used st' id

namespace Gives

variable {used : σ → String → Prop} {st st' st'' : σ} {ids ids' : List String}

theorem none_given (h : ∀ id, used st id → used st' id) : Gives used st [] st' :=
  ⟨h, List.nodup_nil, fun _ h => absurd h List.not_mem_nil, fun _ h => absurd h List.not_mem_nil⟩

theorem trans (h₁ : Gives used st ids st') (h₂ : Gives used st' ids' st'') :
    Gives used st (ids ++ ids') st'' := by
  constructor
  · exact fun id hid => h₂.keeps id (h₁.keeps id hid)
  · rw [List.nodup_append]
    refine ⟨h₁.distinct, h₂.distinct, ?_⟩
    rintro id hid id' hid' rfl
    exact h₂.fresh id hid' (h₁.spent id hid)
  · intro id hid
    rcases List.mem_append.1 hid with hid | hid
    · exact h₁.fresh id hid
    · exact fun h => h₂.fresh id hid (h₁.keeps id h)
  · intro id hid
    rcases List.mem_append.1 hid with hid | hid
    · exact h₂.keeps id (h₁.spent id hid)
    · exact h₂.spent id hid

end Gives

/-! ## Calls of routes -/

namespace GatewayClient

variable {w : World σ} {g : GatewayClient} {c : Credential} {url : Url}
  {used : σ → String → Prop}

theorem exchange_recording (st : σ) (before : List WorldEvent) :
    g.exchange w.recording c url (st, before) =
      ((g.exchange w c url st).1,
        ((g.exchange w c url st).2, before ++ [(g.exchange w c url st).1.event])) := rfl

theorem exchanges_recording (n : Nat) (st : σ) (before : List WorldEvent) :
    g.exchanges w.recording c url n (st, before) =
      ((g.exchanges w c url n st).1,
        ((g.exchanges w c url n st).2,
          before ++ (g.exchanges w c url n st).1.map Call.event)) := by
  induction n generalizing st before with
  | zero => simp [exchanges]
  | succ n ih =>
    simp only [exchanges, exchange_recording, ih, List.map_cons, List.append_assoc,
      List.cons_append, List.nil_append]

/-- One exchange asks for the route under one new id. -/
theorem exchange_gives (h : w.Spends used) (st : σ) :
    ∃ id, (g.exchange w c url st).1.request = g.request c id url ∧
      Gives used st [id] (g.exchange w c url st).2 := by
  refine ⟨(w.newId st).1, rfl, ?_, List.nodup_singleton _, ?_, ?_⟩
  · exact fun id hid => h.send _ _ id (h.newId st id hid)
  · intro id hid
    rw [List.mem_singleton.1 hid]
    exact h.fresh st
  · intro id hid
    rw [List.mem_singleton.1 hid]
    exact h.send _ _ _ (h.spent st)

/-- Exchanges ask for the route under as many new ids. -/
theorem exchanges_gives (h : w.Spends used) (n : Nat) (st : σ) :
    ∃ ids, (g.exchanges w c url n st).1.map Call.request = ids.map (g.request c · url) ∧
      Gives used st ids (g.exchanges w c url n st).2 := by
  induction n generalizing st with
  | zero => exact ⟨[], rfl, Gives.none_given fun _ hid => hid⟩
  | succ n ih =>
    obtain ⟨id, hid, hfirst⟩ : ∃ id, (g.exchange w c url st).1.request = g.request c id url ∧
      Gives used st [id] (g.exchange w c url st).2 := exchange_gives h st
    obtain ⟨ids, hids, hrest⟩ := ih (g.exchange w c url st).2
    refine ⟨id :: ids, ?_, hfirst.trans hrest⟩
    simp only [exchanges, List.map_cons, hid, hids]

end GatewayClient

/-! ## Experiments -/

/-- An experiment of that many calls in its burst, whose requests are built with those ids. -/
structure Experiment.Sends (e : Experiment) (n : Nat) (burst probe : String → Request)
    (ids : List String) : Prop where
  count : e.burst.length = n
  requests : ∃ before last, ids = before ++ [last] ∧ e.burst.map Call.request = before.map burst ∧
    e.probe.request = probe last

/-- The outside as a run needs it: it answers, its sleeps succeed, and its ids are new. -/
structure World.Responds (w : World σ) (used : σ → String → Prop) : Prop where
  answers : ∀ request st, Reply.Answered (w.send request st).1.reply
  sleeps : ∀ time st, (w.sleep time st).1 = .ok ()
  ids : w.Spends used

section Experiments

variable {w : World σ} {used : σ → String → Prop} {s : Scenario} {users : Url} {cA : Credential}

/-- An experiment whose wait has a number of seconds comes to its end. -/
theorem experiment_leads (h : w.Responds used) (hn : 1 ≤ s.burstRequests)
    (husers : Url.resolve s.users.url = .ok users) (hA : ∀ ch ∈ cA.token.toList, ch.toNat < 128)
    {t : Target} {url : Url} {c : Credential} (hurl : Url.resolve t.url = .ok url)
    (hc : ∀ ch ∈ c.token.toList, ch.toNat < 128) (st : σ) (before : List WorldEvent)
    (hwindow : 0 < s.aligner.window) (hmargin : 0 ≤ s.aligner.margin)
    (hfits : s.aligner.Fits (w.readClock st).1) :
    ∃ (e : Experiment) (al : Alignment) (st₁ st₂ : σ × List WorldEvent) (st' : σ)
      (ids : List String),
      e.reading = (w.readClock st).1 ∧
      Leads (Scenario.alignWindow w.recording s.aligner) (st, before) (.ok al) st₁ ∧
      Leads (s.gateway.burst w.recording s.users cA s.burstRequests) st₁
        (.ok (.ofStatuses (e.burst.map Call.status))) st₂ ∧
      Leads (s.gateway.probe w.recording t c) st₂ (.ok ⟨t.name, e.probe.status⟩)
        (st', before ++ e.events) ∧
      e.Sends s.burstRequests.toNat (s.gateway.request cA · users) (s.gateway.request c · url)
        ids ∧
      Gives used st ids st' := by
  obtain ⟨seconds, hseconds⟩ := hfits.exists_seconds hwindow hmargin
  -- the states one after another
  let stA := (w.sleep (.binary seconds) (w.readClock st).2).2
  let n := s.burstRequests.toNat
  let stB := (s.gateway.exchanges w cA users n stA).2
  let last := s.gateway.exchange w c url stB
  let e : Experiment := ⟨(w.readClock st).1, .binary seconds,
    (s.gateway.exchanges w cA users n stA).1, last.1⟩
  let began := before ++ [.readClock (w.readClock st).1] ++ [.slept (.binary seconds)]
  obtain ⟨ids, hids, hburst⟩ : ∃ ids, e.burst.map Call.request =
    ids.map (s.gateway.request cA · users) ∧ Gives used stA ids stB :=
    GatewayClient.exchanges_gives h.ids n stA
  obtain ⟨id, hid, hprobe⟩ : ∃ id, last.1.request = s.gateway.request c id url ∧
    Gives used stB [id] last.2 := GatewayClient.exchange_gives h.ids stB
  have hstart : Gives used st [] stA :=
    Gives.none_given fun id hid => h.ids.sleep _ _ id (h.ids.readClock _ id hid)
  refine ⟨e, _, (stA, began), (stB, began ++ e.burst.map Call.event), last.2, ids ++ [id], rfl,
    Scenario.alignWindow_leads hwindow hmargin hseconds (h.sleeps _ _), ?_, ?_, ?_, ?_⟩
  · have := @GatewayClient.burst_leads _ w.recording s.gateway cA users s.users (stA, began)
      husers hA s.burstRequests hn
    rw [GatewayClient.exchanges_recording] at this
    exact this (GatewayClient.exchanges_answered _ _ _ _ h.answers n stA)
  · have := @GatewayClient.probe_leads _ w.recording s.gateway c url t
      (stB, began ++ e.burst.map Call.event) hurl hc (h.answers _ _)
    rw [GatewayClient.exchange_recording] at this
    have hevents : began ++ e.burst.map Call.event ++ [last.1.event] = before ++ e.events := by
      simp [began, e, Experiment.events]
    rw [← hevents]
    exact this
  · exact ⟨GatewayClient.length_exchanges _ _ _ _ _ _, ids, id, rfl, hids, hid⟩
  · exact (hstart.trans hburst).trans hprobe

end Experiments

/-! ## Bearer tokens -/

/-- The authorization of a call of a route. -/
theorem authorization_request (g : GatewayClient) (i : Identity) (token id : String) (url : Url) :
    (g.request (i.granted token) id url).authorization =
      authorizationFor url (some ("Bearer " ++ token)) := by
  rw [GatewayClient.request, Credential.authorization, Identity.granted]

/-- A request carries the token that it is given exactly where its address names no user. -/
theorem authorizationFor_bearer {url : Url} {token : String} :
    authorizationFor url (some ("Bearer " ++ token)) = some ("Bearer " ++ token) ↔
      url.login? = none := by
  unfold authorizationFor
  cases url.login? with
  | none => simp
  | some login =>
    simp only [Option.some.injEq, reduceCtorEq, iff_false]
    intro h
    have := congrArg String.toList h
    rw [String.toList_append, String.toList_append] at this
    exact absurd (congrArg List.head? (congrArg List.tail this)) (by simp)

/-! ## Whole runs -/

/-- Whether a login is answered with a token, and one in ASCII. -/
structure LoginService.Grants (w : World σ) (l : LoginService) (i : Identity) (url : Url) (st : σ)
    (token : String) : Prop where
  ascii : ∀ ch ∈ token.toList, ch.toNat < 128
  answer : ∃ r, (w.send (l.request i url) st).1.reply = .ok r ∧ judgeResponse r = .ok token

namespace Transcript

/-- The requests of a run, in order: two logins, caller A's burst and probe of orders, caller A's
    burst and caller B's probe of users, each call of a route under an id of its own. -/
structure Conforms (t : Transcript) (s : Scenario) (auth users orders : Url) (tokenA tokenB : String) :
    Prop where
  loginA : t.loginA.request = s.auth.request s.callerA auth
  loginB : t.loginB.request = s.auth.request s.callerB auth
  experiments : ∃ ids₁ ids₂, (ids₁ ++ ids₂).Nodup ∧
    t.first.Sends s.burstRequests.toNat (s.gateway.request (s.callerA.granted tokenA) · users)
      (s.gateway.request (s.callerA.granted tokenA) · orders) ids₁ ∧
    t.second.Sends s.burstRequests.toNat (s.gateway.request (s.callerA.granted tokenA) · users)
      (s.gateway.request (s.callerB.granted tokenB) · users) ids₂

/-- The results of a run as its replies give them. -/
structure Explains (t : Transcript) (r : RunResult) : Prop where
  usersBurst : r.usersBurst = .ofStatuses (t.first.burst.map Call.status)
  ordersProbe : r.ordersProbe.status = t.first.probe.status
  tokenABurst : r.tokenABurst = .ofStatuses (t.second.burst.map Call.status)
  tokenBProbe : r.tokenBProbe.status = t.second.probe.status
  passed : r.passed = true ↔
    (some 200 ∈ t.first.burst.map Call.status ∧ some 429 ∈ t.first.burst.map Call.status) ∧
      t.first.probe.status ≠ some 429 ∧ some 429 ∈ t.second.burst.map Call.status ∧
      t.second.probe.status = some 200

/-- The calls carry the bearer tokens: caller B's the last one, caller A's all before it. -/
def Bearers (t : Transcript) (tokenA tokenB : String) : Prop :=
  (∀ call ∈ t.first.calls ++ t.second.burst,
    call.request.authorization = some ("Bearer " ++ tokenA)) ∧
  t.second.probe.request.authorization = some ("Bearer " ++ tokenB)

variable {t : Transcript} {s : Scenario} {auth users orders : Url} {tokenA tokenB : String}

theorem Conforms.length_calls (h : t.Conforms s auth users orders tokenA tokenB) :
    t.calls.length = 2 * s.burstRequests.toNat + 4 := by
  obtain ⟨_, _, _, h₁, h₂⟩ := h.experiments
  simp only [calls, gets, Experiment.calls, List.length_cons, List.length_append, h₁.count,
    h₂.count, List.length_nil]
  omega

/-- The tokens are carried exactly where the addresses of the routes name no user. -/
theorem Conforms.bearers_iff (h : t.Conforms s auth users orders tokenA tokenB) :
    t.Bearers tokenA tokenB ↔ users.login? = none ∧ orders.login? = none := by
  obtain ⟨_, _, _, h₁, h₂⟩ := h.experiments
  obtain ⟨ids₁, id₁, -, hburst₁, hprobe₁⟩ := h₁.requests
  obtain ⟨ids₂, id₂, -, hburst₂, hprobe₂⟩ := h₂.requests
  have hfirst : t.first.probe.request.authorization =
      authorizationFor orders (some ("Bearer " ++ tokenA)) := by
    rw [hprobe₁, authorization_request]
  have hsecond : t.second.probe.request.authorization =
      authorizationFor users (some ("Bearer " ++ tokenB)) := by
    rw [hprobe₂, authorization_request]
  have hburst {calls : List Call} {ids : List String}
      (hmap : calls.map Call.request =
        ids.map (s.gateway.request (s.callerA.granted tokenA) · users)) :
      ∀ call ∈ calls,
        call.request.authorization = authorizationFor users (some ("Bearer " ++ tokenA)) := by
    intro call hcall
    have hmem : call.request ∈ calls.map Call.request := List.mem_map_of_mem hcall
    rw [hmap] at hmem
    obtain ⟨id, -, hid⟩ := List.mem_map.1 hmem
    rw [← hid, authorization_request]
  constructor
  · rintro ⟨hA, hB⟩
    rw [hsecond, authorizationFor_bearer] at hB
    have hprobe := hA t.first.probe (by simp [Experiment.calls])
    rw [hfirst, authorizationFor_bearer] at hprobe
    exact ⟨hB, hprobe⟩
  · rintro ⟨husers, horders⟩
    refine ⟨?_, by rw [hsecond, authorizationFor_bearer.2 husers]⟩
    intro call hcall
    simp only [Experiment.calls, List.mem_append, List.mem_singleton] at hcall
    rcases hcall with (hcall | rfl) | hcall
    · rw [hburst hburst₁ call hcall, authorizationFor_bearer.2 husers]
    · rw [hfirst, authorizationFor_bearer.2 horders]
    · rw [hburst hburst₂ call hcall, authorizationFor_bearer.2 husers]

end Transcript

theorem Experiment.readClock_mem_events {e : Experiment} {now : Int} :
    .readClock now ∈ e.events ↔ now = e.reading := by
  simp [events, Call.event]

theorem Transcript.readClock_mem_events {t : Transcript} {now : Int} :
    .readClock now ∈ t.events ↔ now = t.first.reading ∨ now = t.second.reading := by
  rw [events, List.mem_cons, List.mem_cons, List.mem_append, Experiment.readClock_mem_events,
    Experiment.readClock_mem_events]
  simp [Call.event]

/-- What the experiments of a transcript found. -/
def Transcript.findings (t : Transcript) (s : Scenario) (alignmentA alignmentB : Alignment) :
    Findings where
  alignmentA := alignmentA
  usersBurst := .ofStatuses (t.first.burst.map Call.status)
  ordersProbe := ⟨s.orders.name, t.first.probe.status⟩
  alignmentB := alignmentB
  tokenABurst := .ofStatuses (t.second.burst.map Call.status)
  tokenBProbe := ⟨s.users.name, t.second.probe.status⟩

theorem Transcript.explains_findings (t : Transcript) (s : Scenario)
    (alignmentA alignmentB : Alignment) (id : String) :
    t.Explains ((t.findings s alignmentA alignmentB).result id) := by
  refine ⟨rfl, rfl, rfl, rfl, ?_⟩
  rw [Findings.passed_result]
  simp only [findings, Tally.allowed_ofStatuses_pos, Tally.throttled_ofStatuses_pos]
  constructor
  · rintro ⟨h₁, h₂, h₃, h₄, h₅⟩
    exact ⟨⟨h₂, h₁⟩, h₃, h₄, h₅⟩
  · rintro ⟨⟨h₂, h₁⟩, h₃, h₄, h₅⟩
    exact ⟨h₁, h₂, h₃, h₄, h₅⟩

/-- The experiments are a transcript, or end at the first wait without a number of seconds. -/
theorem experiments_transcript {w : World σ} {used : σ → String → Prop} (hw : w.Responds used)
    {s : Scenario} (hwindow : 0 < s.aligner.window) (hmargin : 0 ≤ s.aligner.margin)
    (hn : 1 ≤ s.burstRequests) {auth users orders : Url}
    (hauth : Url.resolve s.auth.loginUrl = .ok auth)
    (husers : Url.resolve s.users.url = .ok users) (horders : Url.resolve s.orders.url = .ok orders)
    {tokenA tokenB : String} {st : σ} (before : List WorldEvent)
    (hA : s.auth.Grants w s.callerA auth st tokenA)
    (hB : s.auth.Grants w s.callerB auth (w.send (s.auth.request s.callerA auth) st).2 tokenB) :
    (∃ (t : Transcript) (alA alB : Alignment) (st' : σ),
      Leads (s.experiments w.recording) (st, before) (.ok (t.findings s alA alB))
        (st', before ++ t.events) ∧
      t.Conforms s auth users orders tokenA tokenB ∧
      s.aligner.Fits t.first.reading ∧ s.aligner.Fits t.second.reading) ∨
    (∃ (st' : σ) (done : List WorldEvent),
      Leads (s.experiments w.recording) (st, before) (.error .secondsOverflow)
        (st', before ++ done) ∧
      ∃ now, .readClock now ∈ done ∧ ¬ s.aligner.Fits now) := by
  obtain ⟨rA, hrA, hjA⟩ := hA.answer
  obtain ⟨rB, hrB, hjB⟩ := hB.answer
  have hcA : ∀ ch ∈ (s.callerA.granted tokenA).token.toList, ch.toNat < 128 := hA.ascii
  have hcB : ∀ ch ∈ (s.callerB.granted tokenB).token.toList, ch.toNat < 128 := hB.ascii
  -- the logins
  let sentA := w.send (s.auth.request s.callerA auth) st
  let loginA : Call := ⟨s.auth.request s.callerA auth, sentA.1.reply⟩
  let sentB := w.send (s.auth.request s.callerB auth) sentA.2
  let loginB : Call := ⟨s.auth.request s.callerB auth, sentB.1.reply⟩
  let logins := before ++ [loginA.event] ++ [loginB.event]
  have hloginA : Leads (s.auth.acquire w.recording s.callerA) (st, before)
      (.ok (s.callerA.granted tokenA)) (sentA.2, before ++ [loginA.event]) :=
    @LoginService.acquire_leads _ w.recording _ s.callerA _ (st, before) _ _ hauth hrA hjA
  have hloginB : Leads (s.auth.acquire w.recording s.callerB) (sentA.2, before ++ [loginA.event])
      (.ok (s.callerB.granted tokenB)) (sentB.2, logins) :=
    @LoginService.acquire_leads _ w.recording _ s.callerB _ (sentA.2, before ++ [loginA.event]) _ _
      hauth hrB hjB
  have hoverflow (st : σ) (before : List WorldEvent)
      (h : ¬ s.aligner.Fits (w.readClock st).1) :
      Leads (Scenario.alignWindow w.recording s.aligner) (st, before) (.error .secondsOverflow)
        ((w.readClock st).2, before ++ [.readClock (w.readClock st).1]) :=
    Scenario.alignWindow_overflow hwindow hmargin h
  by_cases h₁ : s.aligner.Fits (w.readClock sentB.2).1
  · obtain ⟨e₁, alA, _, _, st₁, ids₁, hreading₁, halign₁, hburst₁, hprobe₁, hsends₁, hgives₁⟩ :=
      experiment_leads hw hn husers hcA horders hcA sentB.2 logins hwindow hmargin h₁
    by_cases h₂ : s.aligner.Fits (w.readClock st₁).1
    · obtain ⟨e₂, alB, _, _, st₂, ids₂, hreading₂, halign₂, hburst₂, hprobe₂, hsends₂, hgives₂⟩ :=
        experiment_leads hw hn husers hcA husers hcB st₁ (logins ++ e₁.events) hwindow hmargin h₂
      have hend := Scenario.experiments_leads hloginA hloginB halign₁ hburst₁ hprobe₁ halign₂
        hburst₂ hprobe₂
      refine Or.inl ⟨⟨loginA, loginB, e₁, e₂⟩, alA, alB, st₂, ?_, ?_, ?_, ?_⟩
      · have hevents : logins ++ e₁.events ++ e₂.events =
            before ++ (Transcript.mk loginA loginB e₁ e₂).events := by
          simp [logins, Transcript.events]
        rw [← hevents]
        exact hend
      · exact ⟨rfl, rfl, ids₁, ids₂, (hgives₁.trans hgives₂).distinct, hsends₁, hsends₂⟩
      · rw [hreading₁]
        exact h₁
      · rw [hreading₂]
        exact h₂
    · refine Or.inr ⟨(w.readClock st₁).2, loginA.event :: loginB.event :: (e₁.events ++
        [.readClock (w.readClock st₁).1]), ?_, (w.readClock st₁).1, by simp, h₂⟩
      have hend := Scenario.experiments_ends_second hloginA hloginB halign₁ hburst₁ hprobe₁
        (hoverflow st₁ _ h₂)
      simpa [logins] using hend
  · refine Or.inr ⟨(w.readClock sentB.2).2,
      [loginA.event, loginB.event, .readClock (w.readClock sentB.2).1], ?_,
      (w.readClock sentB.2).1, by simp, h₁⟩
    have hend := Scenario.experiments_ends_first hloginA hloginB (hoverflow sentB.2 logins h₁)
    simpa [logins] using hend

/-! ## An outside that serves -/

/-- An outside whose clock stands still, which grants every login and serves every call; its state
    counts the ids that were given. -/
def World.serving : World Nat where
  readClock := fun n => (0, n)
  sleep := fun _ n => (.ok (), n)
  newId := fun n => (String.ofList (List.replicate n 'i'), n + 1)
  -- the body is the object with the token "t"
  send := fun _ n => (⟨.ok { status := 200, body := [0x7b, 0x22, 0x74, 0x6f, 0x6b, 0x65, 0x6e,
    0x22, 0x3a, 0x22, 0x74, 0x22, 0x7d] }, []⟩, n)
  writeFile := fun _ _ n => (.ok (), n)
  replaceFile := fun _ _ n => (.ok (), n)

theorem World.serving_responds : World.serving.Responds fun n id => id.toList.length < n := by
  refine ⟨fun _ _ => trivial, fun _ _ => rfl, ?_, ?_, ?_, ?_, ?_, ?_⟩
  · intro n
    simp [World.serving]
  · intro n
    simp [World.serving]
  · intro n id hid
    exact Nat.lt_succ_of_lt hid
  · exact fun _ _ hid => hid
  · exact fun _ _ _ hid => hid
  · exact fun _ _ _ hid => hid

theorem World.serving_grants (l : LoginService) (i : Identity) (url : Url) (n : Nat) :
    l.Grants World.serving i url n "t" := by
  refine ⟨?_, _, rfl, rfl⟩
  intro ch hch
  have hchar : ch = 't' := List.mem_singleton.1 hch
  rw [hchar]
  decide

/-! ## The run -/

/-- **A run is two logins and two experiments.**  Accepted settings, against any outside that
    answers each request or fails in its transport, whose sleeps succeed and whose ids are new, and
    that grants both logins: if the wait from every reading of the clock has a number of seconds,
    the run gives the results of a transcript that conforms to the settings, of `2 * n + 4` requests,
    which carry the granted tokens exactly where the addresses of the routes name no user;
    otherwise it ends with that fault. -/
theorem run_transcript {w : World σ} {used : σ → String → Prop} (hw : w.Responds used)
    {sources : Sources} {settings : Settings} (hload : Settings.load sources = .ok settings)
    {auth users orders : Url} (hauth : Url.resolve settings.scenario.auth.loginUrl = .ok auth)
    (husers : Url.resolve settings.scenario.users.url = .ok users)
    (horders : Url.resolve settings.scenario.orders.url = .ok orders)
    (shared : Bool) (runId : Option String) (st : σ) (before : List WorldEvent)
    {tokenA tokenB : String}
    (hA : settings.scenario.auth.Grants w settings.scenario.callerA auth (w.startRun runId st).2
      tokenA)
    (hB : settings.scenario.auth.Grants w settings.scenario.callerB auth
      (w.send (settings.scenario.auth.request settings.scenario.callerA auth)
        (w.startRun runId st).2).2 tokenB) :
    ∃ (r : Except Fault RunResult) (st' : σ) (done : List WorldEvent),
      Leads (runScenario w.recording settings shared runId) (st, before) r (st', before ++ done) ∧
      ((∀ now, .readClock now ∈ done → settings.scenario.aligner.Fits now) →
        ∃ (t : Transcript) (result : RunResult), r = .ok result ∧ done = t.events ∧
          (t.calls.length : Int) = 2 * settings.burstRequests + 4 ∧
          t.Conforms settings.scenario auth users orders tokenA tokenB ∧ t.Explains result ∧
          (t.Bearers tokenA tokenB ↔ users.login? = none ∧ orders.login? = none)) ∧
      ((∃ now, .readClock now ∈ done ∧ ¬ settings.scenario.aligner.Fits now) →
        r = .error .secondsOverflow) := by
  obtain ⟨hn, hwindow, hmargin⟩ := Settings.load_bounds hload
  have hstart : w.recording.startRun runId (st, before) =
      ((w.startRun runId st).1, ((w.startRun runId st).2, before)) := by
    cases runId <;> rfl
  have hrun {r : Except Fault Findings} {st' : σ} {done : List WorldEvent}
      (h : Leads (settings.scenario.experiments w.recording) ((w.startRun runId st).2, before) r
        (st', before ++ done)) :
      Leads (runScenario w.recording settings shared runId) (st, before)
        (r.map fun f => f.result (w.startRun runId st).1) (st', before ++ done) := by
    have hafter : (w.recording.startRun runId (st, before)).1 = (w.startRun runId st).1 := by
      rw [hstart]
    rw [← hafter]
    apply runScenario_leads (by omega) hmargin
    rw [hstart]
    exact h
  have hwindow₀ : 0 < settings.scenario.aligner.window := Int.lt_of_lt_of_le Int.one_pos hwindow
  rcases experiments_transcript hw hwindow₀ hmargin (Int.le_trans (by omega) hn) hauth husers
    horders before hA hB with ⟨t, alA, alB, st', hend, hconforms, hfirst, hsecond⟩ |
    ⟨st', done, hend, now, hnow, hfits⟩
  · refine ⟨_, st', t.events, hrun hend, ?_, ?_⟩
    · intro _
      refine ⟨t, _, rfl, rfl, ?_, hconforms, t.explains_findings _ _ _ _, hconforms.bearers_iff⟩
      have hlength := hconforms.length_calls
      have hcount : settings.scenario.burstRequests = settings.burstRequests := rfl
      rw [hcount] at hlength
      omega
    · rintro ⟨now, hnow, hfits⟩
      rcases Transcript.readClock_mem_events.1 hnow with rfl | rfl
      · exact absurd hfirst hfits
      · exact absurd hsecond hfits
  · refine ⟨_, st', done, hrun hend, ?_, ?_⟩
    · intro hall
      exact absurd (hall now hnow) hfits
    · intro _
      rfl

theorem run_transcript_default :
    ∃ (t : Transcript) (result : RunResult) (st' : Nat),
      Leads (runScenario World.serving.recording (Settings.ofWindow 1000) true none) (0, [])
        (.ok result) (st', t.events) ∧
      t.calls.length = 20 ∧ t.Bearers "t" "t" ∧ t.Explains result := by
  have hload : Settings.load {} = .ok (Settings.ofWindow 1000) := rfl
  obtain ⟨r, st', done, hrun, hok, -⟩ := run_transcript World.serving_responds hload
    (Settings.resolve_login 1000) (Settings.resolve_users 1000) (Settings.resolve_orders 1000) true
    none 0 [] (World.serving_grants _ _ _ _) (World.serving_grants _ _ _ _)
  have hfits (now : Int) : (Settings.ofWindow 1000).scenario.aligner.Fits now := by
    apply Aligner.fits_of_le (by decide) (by decide)
    exact Alignment.lt_waitLimit (by decide)
  obtain ⟨t, result, rfl, rfl, hlength, -, hexplains, hbearers⟩ := hok fun now _ => hfits now
  refine ⟨t, result, st', hrun, ?_, hbearers.2 ⟨rfl, rfl⟩, hexplains⟩
  have hburst : (Settings.ofWindow 1000).burstRequests = 8 := rfl
  rw [hburst] at hlength
  omega

/-- Where the first wait is too long for a number of seconds, the run ends after the logins. -/
theorem runScenario_serving_of_long {window : Int} (hwindow : Alignment.waitLimit ≤ window) :
    ∃ done, Leads (runScenario World.serving.recording (Settings.ofWindow window) true none) (0, [])
        (.error .secondsOverflow) (1, done) ∧ (WorldEvent.requests done).length = 2 := by
  have hpos : 0 < window := Int.lt_of_lt_of_le (Alignment.lt_waitLimit (by omega)) hwindow
  have hmargin : (0 : Int) ≤ 30 := by omega
  have hfits : ¬ (Settings.ofWindow window).scenario.aligner.Fits 0 := by
    apply Aligner.not_fits_of_long hwindow
    rw [Int.zero_fmod]
    exact hmargin
  have hlogin (i : Identity) (st : Nat × List WorldEvent) :=
    @LoginService.acquire_leads _ World.serving.recording _ i _ st _ "t"
      (Settings.resolve_login window) rfl rfl
  have halign (st : Nat × List WorldEvent) :=
    @Scenario.alignWindow_overflow _ World.serving.recording (Settings.ofWindow window).scenario.aligner
      st hpos hmargin hfits
  refine ⟨_, runScenario_leads hpos hmargin
    (Scenario.experiments_ends_first (hlogin _ _) (hlogin _ _) (halign _)), ?_⟩
  simp [WorldEvent.requests]

/-- A window of `10 ^ 309` is accepted, and is too long to wait for: the run ends after the logins. -/
theorem run_ends_at_long_window :
    Settings.load { overrides := [("window_ms", .int (10 ^ 155 * 10 ^ 154))] } =
        .ok (Settings.ofWindow (10 ^ 155 * 10 ^ 154)) ∧
      ∃ done, Leads (runScenario World.serving.recording (Settings.ofWindow (10 ^ 155 * 10 ^ 154))
          true none) (0, []) (.error .secondsOverflow) (1, done) ∧
        (WorldEvent.requests done).length = 2 := by
  have hlong : Alignment.waitLimit ≤ 10 ^ 155 * 10 ^ 154 := by decide +kernel
  exact ⟨rfl, runScenario_serving_of_long hlong⟩

end RateIsolation
