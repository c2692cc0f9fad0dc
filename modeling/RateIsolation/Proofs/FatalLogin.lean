/-
  A login without a credential ends the run and leaves no other trace.

  * `Response.HasToken` says which bodies hold a usable token,
    `LoginService.judgeResponse_eq_ok_iff` that exactly these give one;
  * `Reply.Refuses` are the answers and failures of the transport that give no
    credential, with the code of the failure that each is to be reported as;
  * `Reply.Escapes` are the replies without a credential of which no report is
    made: their body would be told and has no text, it has too many levels to
    be read, or there is neither an answer nor a failure of the transport;
  * every reply gives a token, is refused or escapes (`Reply.classes`);
  * `Scenario.guarded_aborted` is what a fault of the experiments leaves
    behind, `runScenario_aborted` what it leaves of a whole run;
  * `fatal_login_clean`: the run ends in the fault of the login, after one
    request or two, and nothing but the count of a reported failure has
    changed; `undecodable_login` is a login that goes uncounted.
-/
import RateIsolation.Proofs.Transcript

namespace RateIsolation

open Harness

variable {σ : Type}

/-! ## Replies to a login -/

/-- A body with a usable token: an object whose token is a text that is not empty. -/
def Response.HasToken (r : Response) (token : String) : Prop :=
  ∃ members, r.json = .ok (.obj members) ∧
    Table.get? (.plain "token") members = some (.text token) ∧ token ≠ ""

namespace LoginService

theorem judgeResponse_eq_ok_iff {r : Response} {token : String} :
    judgeResponse r = .ok token ↔ r.status = 200 ∧ r.HasToken token := by
  unfold judgeResponse
  by_cases hstatus : r.status = 200
  · rw [if_neg (not_not_intro hstatus)]
    cases hjson : r.json with
    | error e => cases e <;> simp [Response.HasToken, hjson]
    | ok body =>
      have hread : readToken body = .ok token ↔ r.HasToken token := by
        rw [readToken_eq_ok_iff]
        simp only [Response.HasToken, hjson, Except.ok.injEq]
      rw [← hread]
      dsimp only
      cases readToken body <;> simp [hstatus]
  · simp [hstatus]

end LoginService

/-- A reply that gives a token. -/
def Reply.Gives (reply : Reply) (token : String) : Prop :=
  ∃ r, reply = .ok r ∧ r.status = 200 ∧ r.HasToken token

theorem Reply.Gives.answered {reply : Reply} {token : String} (h : Reply.Gives reply token) :
    Reply.Answered reply := by
  obtain ⟨r, rfl, -⟩ := h
  exact trivial

/-- A reply that gives none, with the code of the failure: the transport failed, the status is
    another than 200, or the body holds no usable token. -/
inductive Reply.Refuses : Reply → String → Prop
  | transport (kind : TransportFailure) (message : String) :
    Refuses (.error (.transport kind message)) "AUTHENTICATION_ERROR"
  | status {r : Response} (h : r.status ≠ 200) : Refuses (.ok r) "AUTHENTICATION_ERROR"
  | body {r : Response} (h : r.status = 200) (hbody : ∀ token, ¬ r.HasToken token) :
    Refuses (.ok r) "MISSING_FIELD_ERROR"

/-- An answer without a credential of which no report is made: the body that the report would tell
    has no text, or it has more levels than can be read. -/
inductive Response.Escapes (r : Response) : Fault → Prop
  | undecodable {f : DecodeFault}
    (h : r.status ≠ 200 ∨ ∃ e, r.json = .error e ∧ ∀ bracket, e ≠ .tooDeep bracket)
    (htext : r.text = .error f) : Escapes r (.decoding f)
  | tooDeep {bracket : Json.Bracket} (h : r.status = 200)
    (hjson : r.json = .error (.tooDeep bracket)) : Escapes r (.nesting bracket)

theorem Response.Escapes.decoding_or_nesting {r : Response} {fault : Fault}
    (h : r.Escapes fault) : (∃ f, fault = .decoding f) ∨ ∃ b, fault = .nesting b := by
  cases h with
  | undecodable => exact Or.inl ⟨_, rfl⟩
  | tooDeep => exact Or.inr ⟨_, rfl⟩

/-- A reply without a credential of which no report is made: such an answer, or neither an answer
    nor a failure of the transport. -/
inductive Reply.Escapes : Reply → Fault → Prop
  | answer {r : Response} {fault : Fault} (h : r.Escapes fault) : Escapes (.ok r) fault
  | broken {f : SendFault} (h : ¬ Reply.Answered (.error f)) : Escapes (.error f) (.send f)

theorem Reply.classes (reply : Reply) :
    (∃ token, Reply.Gives reply token) ∨ (∃ code, Reply.Refuses reply code) ∨
      ∃ fault, Reply.Escapes reply fault := by
  match reply with
  | .error (.transport kind message) => exact Or.inr (Or.inl ⟨_, .transport kind message⟩)
  | .error (.badAddress _) | .error (.cookieConflict _) | .error (.interrupted _)
  | .error (.server _) => exact Or.inr (Or.inr ⟨_, .broken nofun⟩)
  | .ok r =>
    by_cases hstatus : r.status = 200
    · by_cases htoken : ∃ token, r.HasToken token
      · obtain ⟨token, htoken⟩ := htoken
        exact Or.inl ⟨token, r, rfl, hstatus, htoken⟩
      · exact Or.inr (Or.inl ⟨_, .body hstatus fun token h => htoken ⟨token, h⟩⟩)
    · exact Or.inr (Or.inl ⟨_, .status hstatus⟩)

theorem Response.Escapes.not_gives {r : Response} {fault : Fault} (h : r.Escapes fault)
    {reply : Reply} (hreply : reply = .ok r) (token : String) : ¬ Reply.Gives reply token := by
  rintro ⟨answer, hanswer, hstatus, _, hjson, -⟩
  cases hreply.symm.trans hanswer
  cases h with
  | undecodable h _ =>
    obtain h | ⟨e, he, -⟩ := h
    · exact h hstatus
    · cases he.symm.trans hjson
  | tooDeep _ he => cases he.symm.trans hjson

/-- The fault of a login that escapes is no failure that the harness reports. -/
theorem Reply.Escapes.unreported {reply : Reply} {fault : Fault} (h : Reply.Escapes reply fault)
    (e : HarnessError) : fault ≠ .harness e := by
  cases h with
  | answer h => cases h <;> exact nofun
  | broken => exact nofun

theorem Response.exists_text (r : Response) (h : ∀ f, r.text ≠ .error f) :
    ∃ body, r.text = .ok body := by
  cases htext : r.text with
  | ok body => exact ⟨body, rfl⟩
  | error f => exact absurd htext (h f)

section Unescaped

variable {r : Response} (hnot : ∀ fault, ¬ r.Escapes fault)

include hnot

/-- A rejection that does not escape has a text. -/
theorem Response.text_of_status (h : r.status ≠ 200) : ∃ body, r.text = .ok body :=
  r.exists_text fun _ htext => hnot _ (.undecodable (.inl h) htext)

/-- A body that is not JSON and does not escape could be read to its end, and has a text. -/
theorem Response.text_of_notJson {e : Json.BodyError} (h : r.status = 200)
    (hjson : r.json = .error e) :
    (∀ bracket, e ≠ .tooDeep bracket) ∧ ∃ body, r.text = .ok body := by
  have hdeep (bracket : Json.Bracket) : e ≠ .tooDeep bracket := by
    rintro rfl
    exact hnot _ (.tooDeep h hjson)
  exact ⟨hdeep, r.exists_text fun _ htext => hnot _ (.undecodable (.inr ⟨e, hjson, hdeep⟩) htext)⟩

end Unescaped

theorem reportedBody_of_text {r : Response} {body : WideText} (h : r.text = .ok body) :
    reportedBody r = .ok (body.take 512) := by
  rw [reportedBody, h, Except.map, reportedBodyLength]

theorem reportedBody_of_error {r : Response} {f : DecodeFault} (h : r.text = .error f) :
    reportedBody r = .error f := by
  rw [reportedBody, h, Except.map]

namespace LoginService

variable {r : Response} {reply : Reply} {fault : Fault} {token code : String} (i : Identity)

theorem judge_of_gives (h : Reply.Gives reply token) : judge reply = .ok (.ok token) := by
  obtain ⟨r, rfl, hstatus, htoken⟩ := h
  rw [judge, judgeResponse_eq_ok_iff.2 ⟨hstatus, htoken⟩]

theorem ending_of_gives (h : Reply.Gives reply token) : ending i reply = .ok (i.granted token) := by
  rw [ending, judge_of_gives h]
  rfl

theorem ending_of_status (h : r.status ≠ 200) : ending i (.ok r) =
    .error ((LoginFailure.rejected r.status (reportedBody r)).fault i.username) := by
  rw [ending, judge, judgeResponse, if_pos h]
  rfl

theorem ending_of_notJson {e : Json.BodyError} (h : r.status = 200) (hjson : r.json = .error e)
    (hdeep : ∀ bracket, e ≠ .tooDeep bracket) :
    ending i (.ok r) = .error ((LoginFailure.notJson (reportedBody r)).fault i.username) := by
  rw [ending, judge, judgeResponse, if_neg (not_not_intro h), hjson]
  cases e with
  | tooDeep bracket => exact absurd rfl (hdeep bracket)
  | _ => rfl

theorem ending_of_tooDeep {bracket : Json.Bracket} (h : r.status = 200)
    (hjson : r.json = .error (.tooDeep bracket)) : ending i (.ok r) = .error (.nesting bracket) := by
  rw [ending, judge, judgeResponse, if_neg (not_not_intro h), hjson]
  rfl

theorem ending_of_malformed {body : Json} {fault : TokenFault} (h : r.status = 200)
    (hjson : r.json = .ok body) (hread : readToken body = .error fault) :
    ending i (.ok r) = .error ((LoginFailure.malformed fault).fault i.username) := by
  rw [ending, judge, judgeResponse, if_neg (not_not_intro h), hjson]
  dsimp only
  rw [hread]
  rfl

/-- A login that escapes ends in its fault. -/
theorem ending_of_escapes (h : Reply.Escapes reply fault) : ending i reply = .error fault := by
  cases h with
  | @broken f h =>
    match f, h with
    | .transport _ _, h => exact absurd trivial h
    | .badAddress _, _ | .cookieConflict _, _ | .interrupted _, _ | .server _, _ => rfl
  | @answer r _ h =>
    cases h with
    | tooDeep h hjson => exact ending_of_tooDeep i h hjson
    | undecodable h htext =>
      by_cases hstatus : r.status = 200
      · obtain ⟨e, hjson, hdeep⟩ := h.resolve_left (not_not_intro hstatus)
        rw [ending_of_notJson i hstatus hjson hdeep, reportedBody_of_error htext]
        rfl
      · rw [ending_of_status i hstatus, reportedBody_of_error htext]
        rfl

/-- A reply that is refused ends a login in a failure of its code, unless it escapes. -/
theorem ending_of_refuses (h : Reply.Refuses reply code)
    (hnot : ∀ fault, ¬ Reply.Escapes reply fault) :
    ∃ e, ending i reply = .error (.harness e) ∧ e.code = code ∧ e.isAuthentication = true := by
  cases h with
  | transport kind message => exact ⟨_, rfl, rfl, rfl⟩
  | @status r h =>
    obtain ⟨body, htext⟩ := Response.text_of_status (fun _ h => hnot _ (.answer h)) h
    rw [ending_of_status i h, reportedBody_of_text htext]
    exact ⟨_, rfl, rfl, rfl⟩
  | @body r h hnone =>
    cases hjson : r.json with
    | ok body =>
      cases hread : readToken body with
      | ok token =>
        obtain ⟨members, rfl, htoken⟩ := readToken_eq_ok_iff.1 hread
        exact absurd ⟨members, hjson, htoken⟩ (hnone token)
      | error fault =>
        rw [ending_of_malformed i h hjson hread]
        exact ⟨_, rfl, rfl, rfl⟩
    | error e =>
      obtain ⟨hdeep, body, htext⟩ :=
        Response.text_of_notJson (fun _ h => hnot _ (.answer h)) h hjson
      rw [ending_of_notJson i h hjson hdeep, reportedBody_of_text htext]
      exact ⟨_, rfl, rfl, rfl⟩

end LoginService

/-! ## What a failure leaves -/

/-- The only difference between two states of the metrics: one more failure of a code. -/
structure Metrics.OneMoreError (m m' : Metrics) (code : String) : Prop where
  service : m'.service = m.service
  requests : m'.requests = m.requests
  checks : m'.checks = m.checks
  waitSeconds : m'.waitSeconds = m.waitSeconds
  counted : Table.get? code m'.errors = some ((Table.get? code m.errors).getD 0 + 1)
  others : ∀ other, other ≠ code → Table.get? other m'.errors = Table.get? other m.errors

theorem Metrics.oneMoreError_record (m : Metrics) (code : String) :
    m.OneMoreError (m.record (.error code)) code :=
  ⟨rfl, rfl, rfl, rfl, Table.get?_set_self _ _ _, fun _ h => Table.get?_set_ne h _ _⟩

/-- The session when a run begins its experiments. -/
def Session.begun (v : Session σ) (w : World σ) (settings : Settings) (shared : Bool)
    (runId : Option String) : Session σ :=
  { v with
    world := (w.startRun runId v.world).2
    context := { v.context with runId := some (w.startRun runId v.world).1 }
    opened := if shared then v.opened else v.opened ++ [.binary settings.requestTimeout] }

/-- A session in some phase. -/
def Session.inPhase (v : Session σ) (phase : Option String) : Session σ :=
  { v with context := { v.context with phase := phase } }

/-- The metrics after a fault ended the run: a failure that the harness reports is counted. -/
def Fault.counted (metrics : Option Metrics) : Fault → Option Metrics
  | .harness e => metrics.map (Metrics.record · (.error e.code))
  | _ => metrics

theorem Reply.Escapes.uncounted {reply : Reply} {fault : Fault} (h : Reply.Escapes reply fault)
    (metrics : Option Metrics) : fault.counted metrics = metrics := by
  cases fault with
  | harness e => exact absurd rfl (h.unreported e)
  | _ => rfl

/-- The session after a fault ended the run. -/
def Session.aborted (v : Session σ) (fault : Fault) : Session σ :=
  { v.inPhase none with metrics := fault.counted v.metrics }

namespace Scenario

variable {w : World σ} {s : Scenario} {v v' v'' : Session σ}

/-- A report of a fault counts it. -/
theorem reportAbort_ends (v : Session σ) (fault : Fault) :
    Ends Session.unlogged (reportAbort fault) v (.ok ())
      { v with metrics := fault.counted v.metrics } := by
  match fault with
  | .harness e => exact (ends_log v _ _ _ _).bind (ends_record v _)
  | .url _ | .header _ | .send _ | .decoding _ | .nesting _ | .secondsOverflow | .sleep _
  | .file _ => exact ends_pure () v

/-- A fault of the guarded steps is counted, and leaves no phase. -/
theorem guarded_aborted {α : Type} {x : Harness σ α} {fault : Fault}
    (h : Ends Session.unlogged x v (.error fault) v') :
    Ends Session.unlogged (guarded x) v (.error fault) (v'.aborted fault) :=
  Ends.ensuring (Ends.tryCatch_error h ((reportAbort_ends v' fault).bind (ends_throw _ _)))
    (ends_setPhase _ none)

theorem experiments_ends_loginA {e : Fault}
    (hA : Ends Session.unlogged (s.auth.acquire w s.callerA) (v.inPhase (some "login")) (.error e)
      v') :
    Ends Session.unlogged (s.experiments w) v (.error e) v' :=
  (ends_setPhase v _).bind hA.bind_error

theorem experiments_ends_loginB {c : Credential} {e : Fault}
    (hA : Ends Session.unlogged (s.auth.acquire w s.callerA) (v.inPhase (some "login")) (.ok c) v')
    (hB : Ends Session.unlogged (s.auth.acquire w s.callerB) v' (.error e) v'') :
    Ends Session.unlogged (s.experiments w) v (.error e) v'' :=
  (ends_setPhase v _).bind (hA.bind hB.bind_error)

end Scenario

/-- A run whose experiments end in a fault ends in it, and a failure that is reported is counted
    once. -/
theorem runScenario_aborted {w : World σ} {settings : Settings} {shared : Bool}
    {runId : Option String} {v v' : Session σ} {fault : Fault} (hw : 0 < settings.windowMs)
    (hm : 0 ≤ settings.alignMarginMs)
    (h : Ends Session.unlogged (settings.scenario.experiments w)
      (v.begun w settings shared runId) (.error fault) v') :
    Ends Session.unlogged (runScenario w settings shared runId) v (.error fault)
      (v'.aborted fault) := by
  have hbegin (v : Session σ) : Ends Session.unlogged (beginRun w runId) v
      (.ok (w.startRun runId v.world).1)
      { v with
        world := (w.startRun runId v.world).2
        context := { v.context with runId := some (w.startRun runId v.world).1 } } := by
    rintro s rfl
    exact ⟨_, beginRun_run w runId s, rfl⟩
  unfold runScenario
  rw [aligner_make hw hm]
  refine (ends_pure _ v).bind ?_
  cases shared
  case' false => refine (ends_openConnection v _).bind ?_
  all_goals
    exact (hbegin _).bind ((ends_log _ _ _ _ _).bind (Scenario.guarded_aborted h).bind_error)

/-! ## Fatal logins -/

namespace LoginService

/-- A login on some state of the outside, and the state after it. -/
def attempt (w : World σ) (l : LoginService) (i : Identity) (url : Url) (st : σ) : Call × σ :=
  let answer := w.send (l.request i url) st
  (⟨l.request i url, answer.1.reply⟩, answer.2)

variable {w : World σ} {l : LoginService} {i : Identity} {url : Url} {st : σ}
  {events : List WorldEvent}

/-- A login on a connection that is open does nothing but its request. -/
theorem acquire_recording {v : Session (σ × List WorldEvent)} (hshared : l.shared = true)
    (hurl : Url.resolve l.loginUrl = .ok url) (hv : v.world = (st, events)) :
    Ends Session.unlogged (l.acquire w.recording i) v (ending i (l.attempt w i url st).1.reply)
      { v with world :=
          ((l.attempt w i url st).2, events ++ [(l.attempt w i url st).1.event]) } := by
  have h := @acquire_ends _ w.recording l i url v hurl
  rw [if_pos hshared, hv] at h
  exact h

theorem acquire_recording_leads (hshared : l.shared = true)
    (hurl : Url.resolve l.loginUrl = .ok url) :
    Leads (l.acquire w.recording i) (st, events) (ending i (l.attempt w i url st).1.reply)
      ((l.attempt w i url st).2, events ++ [(l.attempt w i url st).1.event]) :=
  Leads.of_unlogged fun _ hv => ⟨_, acquire_recording hshared hurl hv, rfl⟩

end LoginService

theorem World.startRun_recording (w : World σ) (runId : Option String)
    (st : σ × List WorldEvent) :
    w.recording.startRun runId st =
      ((w.startRun runId st.1).1, ((w.startRun runId st.1).2, st.2)) := by
  cases runId <;> rfl

/-- A run on the session `s` that ended in the fault of a login and left the session `s'`: `login` is
    that login and `st` the outside on which it was made, `calls` are all requests of the run. -/
structure StoppedLogin (run : Harness (σ × List WorldEvent) RunResult)
    (login : Harness (σ × List WorldEvent) Credential) (s : Session (σ × List WorldEvent))
    (st : σ × List WorldEvent) (calls : List Call) (fault : Fault)
    (s' : Session (σ × List WorldEvent)) : Prop where
  ends : run.run.run s = (.error fault, s')
  -- the fault is the login's own, and nothing was done after it
  raised : Leads login st (.error fault) s'.world
  -- no clock was read, nothing slept, and no route was asked for
  events : s'.world.2 = s.world.2 ++ calls.map Call.event
  posts : ∀ call ∈ calls, call.request.method = "POST"
  phase : s'.context.phase = none
  printed : s'.printed = s.printed

/-- A run that ended in a failed login of which the harness made a report: it is counted. -/
structure FatalLogin (run : Harness (σ × List WorldEvent) RunResult)
    (login : Harness (σ × List WorldEvent) Credential) (s : Session (σ × List WorldEvent))
    (st : σ × List WorldEvent) (code : String) (calls : List Call) (e : HarnessError)
    (s' : Session (σ × List WorldEvent)) : Prop
    extends StoppedLogin run login s st calls (.harness e) s' where
  authentication : e.isAuthentication = true
  code_eq : e.code = code
  metrics : ∀ m, s.metrics = some m → ∃ m', s'.metrics = some m' ∧ m.OneMoreError m' code
  unmeasured : s.metrics = none → s'.metrics = none

/-- A run that ended in a login of which the harness made no report: nothing is counted. -/
structure EscapedLogin (run : Harness (σ × List WorldEvent) RunResult)
    (login : Harness (σ × List WorldEvent) Credential) (s : Session (σ × List WorldEvent))
    (st : σ × List WorldEvent) (calls : List Call) (fault : Fault)
    (s' : Session (σ × List WorldEvent)) : Prop
    extends StoppedLogin run login s st calls fault s' where
  unreported : ∀ e, fault ≠ .harness e
  metrics : s'.metrics = s.metrics

/-- What a reply to a login makes of the run, if it gives no token: refused under some code, it ends
    the run in a report, and in the fault of the reply if that escapes. -/
structure RefusedLogin (run : Harness (σ × List WorldEvent) RunResult)
    (login : Harness (σ × List WorldEvent) Credential) (s : Session (σ × List WorldEvent))
    (st : σ × List WorldEvent) (calls : List Call) (reply : Reply) : Prop where
  reported : ∀ code, Reply.Refuses reply code → (∀ fault, ¬ Reply.Escapes reply fault) →
    ∃ e s', FatalLogin run login s st code calls e s'
  escaped : ∀ fault, Reply.Escapes reply fault →
    ∃ s', EscapedLogin run login s st calls fault s'

section Experiments

variable {w : World σ} {settings : Settings} {shared : Bool} {runId : Option String}
  {s : Session (σ × List WorldEvent)} {login : Harness (σ × List WorldEvent) Credential}
  {st : σ × List WorldEvent} {calls : List Call} {reply : Reply}

/-- What a run of experiments that ended in the fault of a login leaves. -/
theorem stoppedLogin_of_experiments {fault : Fault} {st' : σ} (hw : 0 < settings.windowMs)
    (hm : 0 ≤ settings.alignMarginMs)
    (hend : Ends Session.unlogged (settings.scenario.experiments w.recording)
      (s.unlogged.begun w.recording settings shared runId) (.error fault)
      { (s.unlogged.begun w.recording settings shared runId).inPhase (some "login") with
        world := (st', s.world.2 ++ calls.map Call.event) })
    (hlogin : Leads login st (.error fault) (st', s.world.2 ++ calls.map Call.event))
    (hposts : ∀ call ∈ calls, call.request.method = "POST") :
    ∃ s', StoppedLogin (runScenario w.recording settings shared runId) login s st calls fault s' ∧
      s'.metrics = fault.counted s.metrics := by
  obtain ⟨s', hrun, hs'⟩ := runScenario_aborted hw hm hend s rfl
  have hworld : s'.world = (st', s.world.2 ++ calls.map Call.event) :=
    congrArg Session.world hs'
  have hmetrics : s'.metrics = fault.counted s.metrics := congrArg Session.metrics hs'
  have hphase : s'.context.phase = none := congrArg (fun v => v.context.phase) hs'
  have hprinted : s'.printed = s.printed := congrArg (fun v => v.printed) hs'
  refine ⟨s', ⟨hrun, ?_, ?_, hposts, hphase, hprinted⟩, hmetrics⟩
  · rw [hworld]
    exact hlogin
  · rw [hworld]

/-- Where the experiments end as a login does that gives no credential, the run is ended by it. -/
theorem refusedLogin_of_experiments (i : Identity) (st' : σ) (hw : 0 < settings.windowMs)
    (hm : 0 ≤ settings.alignMarginMs)
    (hend : ∀ fault, LoginService.ending i reply = .error fault →
      Ends Session.unlogged (settings.scenario.experiments w.recording)
        (s.unlogged.begun w.recording settings shared runId) (.error fault)
        { (s.unlogged.begun w.recording settings shared runId).inPhase (some "login") with
          world := (st', s.world.2 ++ calls.map Call.event) })
    (hlogin : Leads login st (LoginService.ending i reply)
      (st', s.world.2 ++ calls.map Call.event))
    (hposts : ∀ call ∈ calls, call.request.method = "POST") :
    RefusedLogin (runScenario w.recording settings shared runId) login s st calls reply := by
  constructor
  · intro code hrefuses hnot
    obtain ⟨e, he, rfl, hauthentication⟩ := LoginService.ending_of_refuses i hrefuses hnot
    obtain ⟨s', hstopped, hmetrics⟩ :=
      stoppedLogin_of_experiments hw hm (hend _ he) (he ▸ hlogin) hposts
    refine ⟨e, s', hstopped, hauthentication, rfl, ?_, ?_⟩
    · intro m hm
      exact ⟨_, by rw [hmetrics, hm]; rfl, m.oneMoreError_record e.code⟩
    · intro hnone
      rw [hmetrics, hnone]
      rfl
  · intro fault hescapes
    have hfault := LoginService.ending_of_escapes i hescapes
    obtain ⟨s', hstopped, hmetrics⟩ :=
      stoppedLogin_of_experiments hw hm (hend _ hfault) (hfault ▸ hlogin) hposts
    refine ⟨s', hstopped, hescapes.unreported, ?_⟩
    rw [hmetrics, hescapes.uncounted]

end Experiments

/-- An outside that answers each request with the next of some replies. -/
def World.replying : World (List Reply) where
  readClock := fun replies => (0, replies)
  sleep := fun _ replies => (.ok (), replies)
  newId := fun replies => ("", replies)
  send := fun _ replies =>
    (⟨replies.headD (.error (.transport .connect "")), []⟩, replies.tail)
  writeFile := fun _ _ replies => (.ok (), replies)
  replaceFile := fun _ _ replies => (.ok (), replies)

/-- The answer that gives a token of letters and digits. -/
def Response.granting (token : String) : Response where
  status := 200
  body := [0x7b, 0x22, 0x74, 0x6f, 0x6b, 0x65, 0x6e, 0x22, 0x3a, 0x22] ++
    token.toList.map Char.toUInt8 ++ [0x22, 0x7d]

section Logins

variable {w : World σ} {settings : Settings} {auth : Url} {s : Session (σ × List WorldEvent)}

/-- A first login that gives no credential ends the run, after one request. -/
theorem first_refused (hw : 0 < settings.windowMs) (hm : 0 ≤ settings.alignMarginMs)
    (hauth : Url.resolve settings.scenario.auth.loginUrl = .ok auth) (shared : Bool)
    (runId : Option String) :
    let service := settings.scenario.auth
    let begun := (w.startRun runId s.world.1).2
    let first := service.attempt w settings.scenario.callerA auth begun
    RefusedLogin (runScenario w.recording settings shared runId)
      (service.acquire w.recording settings.scenario.callerA) s (begun, s.world.2) [first.1]
      first.1.reply := by
  intro service begun first
  have hworld : ((s.unlogged.begun w.recording settings shared runId).inPhase (some "login")).world =
      (begun, s.world.2) := by
    show (w.recording.startRun runId s.world).2 = _
    rw [World.startRun_recording]
  refine refusedLogin_of_experiments settings.scenario.callerA first.2 hw hm
    (fun fault hfault => Scenario.experiments_ends_loginA ?_)
    (LoginService.acquire_recording_leads rfl hauth) (List.forall_mem_singleton.2 rfl)
  rw [← hfault]
  exact LoginService.acquire_recording rfl hauth hworld

/-- A second login that gives no credential ends the run, after two requests. -/
theorem second_refused (hw : 0 < settings.windowMs) (hm : 0 ≤ settings.alignMarginMs)
    (hauth : Url.resolve settings.scenario.auth.loginUrl = .ok auth) (shared : Bool)
    (runId : Option String) {token : String} :
    let service := settings.scenario.auth
    let begun := (w.startRun runId s.world.1).2
    let first := service.attempt w settings.scenario.callerA auth begun
    let second := service.attempt w settings.scenario.callerB auth first.2
    Reply.Gives first.1.reply token →
      RefusedLogin (runScenario w.recording settings shared runId)
        (service.acquire w.recording settings.scenario.callerB) s
        (first.2, s.world.2 ++ [first.1.event]) [first.1, second.1] second.1.reply := by
  intro service begun first second hgives
  -- the session when the login phase is set
  let v := (s.unlogged.begun w.recording settings shared runId).inPhase (some "login")
  have hv : v.world = (begun, s.world.2) := by
    show (w.recording.startRun runId s.world).2 = _
    rw [World.startRun_recording]
  have hevents : s.world.2 ++ [first.1.event] ++ [second.1.event] =
      s.world.2 ++ [first.1, second.1].map Call.event := by simp
  have hA := LoginService.acquire_recording (w := w) (i := settings.scenario.callerA) rfl hauth hv
  rw [LoginService.ending_of_gives _ hgives] at hA
  have hB := LoginService.acquire_recording (w := w) (i := settings.scenario.callerB)
    (v := { v with world := (first.2, s.world.2 ++ [first.1.event]) }) rfl hauth rfl
  have hlogin : Leads _ (first.2, s.world.2 ++ [first.1.event]) _ _ :=
    LoginService.acquire_recording_leads (w := w) (i := settings.scenario.callerB) rfl hauth
  rw [hevents] at hB hlogin
  refine refusedLogin_of_experiments settings.scenario.callerB second.2 hw hm
    (fun fault hfault => Scenario.experiments_ends_loginB hA ?_) hlogin
    (List.forall_mem_cons.2 ⟨rfl, List.forall_mem_singleton.2 rfl⟩)
  rw [← hfault]
  exact hB

end Logins

/-- **A failed login is fatal, and nothing else.**  Accepted settings against any outside: where the
    first login is refused, the run ends in the failure of that login after one request; where the
    first gives a token and the second is refused, it ends in the failure of the second after two.
    No route is asked for, the clock is neither read nor slept on, and one more failure of that code
    is all that the metrics show; of a reply that escapes, they show nothing. -/
theorem fatal_login_clean {w : World σ} {sources : Sources} {settings : Settings}
    (hload : Settings.load sources = .ok settings) {auth : Url}
    (hauth : Url.resolve settings.scenario.auth.loginUrl = .ok auth) (shared : Bool)
    (runId : Option String) (s : Session (σ × List WorldEvent)) :
    let run := runScenario w.recording settings shared runId
    let service := settings.scenario.auth
    let callerA := settings.scenario.callerA
    let callerB := settings.scenario.callerB
    let begun := (w.startRun runId s.world.1).2
    let first := service.attempt w callerA auth begun
    let second := service.attempt w callerB auth first.2
    RefusedLogin run (service.acquire w.recording callerA) s (begun, s.world.2) [first.1]
      first.1.reply ∧
    ∀ token, Reply.Gives first.1.reply token →
      RefusedLogin run (service.acquire w.recording callerB) s
        (first.2, s.world.2 ++ [first.1.event]) [first.1, second.1] second.1.reply := by
  intro run service callerA callerB begun first second
  obtain ⟨-, hwindow, hmargin⟩ := Settings.load_bounds hload
  have hpos : 0 < settings.windowMs := hwindow
  exact ⟨first_refused hpos hmargin hauth shared runId,
    fun _ hgives => second_refused hpos hmargin hauth shared runId hgives⟩

theorem fatal_login_clean_default :
    (∃ e s', (runScenario World.replying.recording (Settings.ofWindow 1000) true none).run.run
        { world := ([.error (.transport .connect "")], []), metrics := some {} } =
          (.error (.harness e), s') ∧
      e.code = "AUTHENTICATION_ERROR" ∧ s'.world.2.length = 1 ∧
      ∃ m, s'.metrics = some m ∧ Table.get? "AUTHENTICATION_ERROR" m.errors = some 1) ∧
    (∃ e s', (runScenario World.replying.recording (Settings.ofWindow 1000) true none).run.run
        { world := ([.ok (.granting "t"), .ok { status := 200 }], []), metrics := some {} } =
          (.error (.harness e), s') ∧
      e.code = "MISSING_FIELD_ERROR" ∧ s'.world.2.length = 2) := by
  have hload : Settings.load {} = .ok (Settings.ofWindow 1000) := rfl
  constructor
  · obtain ⟨hfirst, -⟩ := fatal_login_clean (w := World.replying) hload
      (Settings.resolve_login 1000) true none
      { world := ([.error (.transport .connect "")], []), metrics := some {} }
    have hclean (fault : Fault) : ¬ Reply.Escapes (.error (.transport .connect "")) fault := by
      rintro (- | ⟨h⟩)
      exact h trivial
    obtain ⟨e, s', h⟩ := hfirst.reported _ (.transport .connect "") hclean
    obtain ⟨m, hm, hmetrics⟩ := h.metrics {} rfl
    refine ⟨e, s', h.ends, h.code_eq, ?_, m, hm, hmetrics.counted⟩
    rw [h.events]
    rfl
  · obtain ⟨-, hsecond⟩ := fatal_login_clean (w := World.replying) hload
      (Settings.resolve_login 1000) true none
      { world := ([.ok (.granting "t"), .ok { status := 200 }], []), metrics := some {} }
    have hbody : Reply.Refuses (.ok { status := 200 }) "MISSING_FIELD_ERROR" := by
      refine .body rfl ?_
      rintro token ⟨_, hjson, -⟩
      cases hjson
    have hclean (fault : Fault) : ¬ Reply.Escapes (.ok { status := 200 }) fault := by
      rintro ⟨⟨-, htext⟩ | ⟨-, hjson⟩⟩
      · cases htext
      · cases hjson
    have hgives : Reply.Gives (.ok (.granting "t")) "t" :=
      ⟨.granting "t", rfl, rfl, _, rfl, rfl, by decide⟩
    obtain ⟨e, s', h⟩ := (hsecond "t" hgives).reported _ hbody hclean
    refine ⟨e, s', h.ends, h.code_eq, ?_⟩
    rw [h.events]
    rfl

/-- A rejection whose body has no text in the encoding that it names. -/
def Response.unreadable : Response where
  status := 401
  headers := [("Content-Type", "text/plain; charset=utf-16")]
  body := [0x6e, 0x6f]

/-- A login that is rejected with a body without a text ends the run in the fault of the decoder:
    it is no failed login, and is not counted. -/
theorem undecodable_login :
    Reply.Refuses (.ok .unreadable) "AUTHENTICATION_ERROR" ∧
    ∃ s', (runScenario World.replying.recording (Settings.ofWindow 1000) true none).run.run
        { world := ([.ok .unreadable], []), metrics := some {} } =
          (.error (.decoding (.unmarked "UTF-16")), s') ∧
      ∃ m, s'.metrics = some m ∧ m.errors = [] := by
  have hrefuses : Reply.Refuses (.ok .unreadable) "AUTHENTICATION_ERROR" := .status (by decide)
  have hescapes : Reply.Escapes (.ok .unreadable) (.decoding (.unmarked "UTF-16")) :=
    .answer (.undecodable (.inl (by decide)) rfl)
  have hrefused := @first_refused _ World.replying (Settings.ofWindow 1000) _
    { world := ([.ok .unreadable], []), metrics := some {} } (by decide) (by decide)
    (Settings.resolve_login 1000) true none
  obtain ⟨s', h⟩ := hrefused.escaped _ hescapes
  exact ⟨hrefuses, s', h.ends, {}, h.metrics, rfl⟩

end RateIsolation
