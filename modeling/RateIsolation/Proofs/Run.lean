/-
  A run as a sequence of states of the outside.

  * `GatewayClient.exchanges` are the requests of a burst with their replies,
    and the state of the outside after them; `burst_leads` and `probe_leads`
    say what the harness makes of them;
  * `LoginService.ending` is what a login comes to by its reply,
    `LoginService.acquire_ends` that it does; `Scenario.alignWindow_leads` is a
    wait and `Scenario.alignWindow_overflow` one that is too long;
  * `Scenario.experiments_leads` puts these together, `runScenario_leads`
    carries the end of the experiments to the end of the run;
  * `Settings.ofWindow` are the default settings with a window of some length.
-/
import Mathlib.Data.List.TakeWhile
import RateIsolation.Proofs.Action
import RateIsolation.Proofs.Verdict
import RateIsolation.Proofs.Window

namespace RateIsolation

open Harness

variable {σ : Type}

/-! ## Calls -/

/-- A request and its reply. -/
structure Call where
  request : Request
  reply : Reply

namespace Call

/-- The status of the reply, none where the transport failed. -/
def status (c : Call) : Option Int :=
  match c.reply with
  | .ok r => some r.status
  | .error _ => none

/-- The call as it is recorded. -/
def event (c : Call) : WorldEvent := .sent c.request c.reply

end Call

/-- Whether a reply is an answer or a failure of the transport. -/
def Reply.Answered : Reply → Prop
  | .ok _ => True
  | .error (.transport _ _) => True
  | .error _ => False

/-- A text in ASCII is sent as it is. -/
theorem headerFault?_eq_none {value : String} (h : ∀ c ∈ value.toList, c.toNat < 128) :
    headerFault? value = none := by
  have hall : value.toList.takeWhile (fun c => decide (c.toNat < 128)) = value.toList := by
    rw [List.takeWhile_eq_self_iff]
    simpa using h
  simp [headerFault?, hall]

theorem bearer_ascii {token : String} (h : ∀ c ∈ token.toList, c.toNat < 128) :
    ∀ c ∈ ("Bearer " ++ token).toList, c.toNat < 128 := by
  intro c hc
  rw [String.toList_append, List.mem_append] at hc
  rcases hc with hc | hc
  · have hprefix : "Bearer ".toList.all (fun c => decide (c.toNat < 128)) = true := by decide
    exact of_decide_eq_true (List.all_eq_true.1 hprefix c hc)
  · exact h c hc

namespace GatewayClient

variable (w : World σ) (g : GatewayClient) (c : Credential) (url : Url)

/-- One request for a route under a new id, and the state after it. -/
def exchange (st : σ) : Call × σ :=
  let request := g.request c (w.newId st).1 url
  let answer := w.send request (w.newId st).2
  (⟨request, answer.1.reply⟩, answer.2)

/-- Requests for a route one after another. -/
def exchanges : Nat → σ → List Call × σ
  | 0, st => ([], st)
  | n + 1, st =>
    let first := g.exchange w c url st
    let rest := exchanges n first.2
    (first.1 :: rest.1, rest.2)

theorem length_exchanges (n : Nat) (st : σ) : (g.exchanges w c url n st).1.length = n := by
  induction n generalizing st with
  | zero => rfl
  | succ n ih => simp [exchanges, ih]

/-- Against an outside that answers, each of some exchanges is answered. -/
theorem exchanges_answered (hw : ∀ request st, Reply.Answered (w.send request st).1.reply)
    (n : Nat) (st : σ) : ∀ call ∈ (g.exchanges w c url n st).1, Reply.Answered call.reply := by
  induction n generalizing st with
  | zero => exact fun _ h => absurd h List.not_mem_nil
  | succ n ih => exact List.forall_mem_cons.2 ⟨hw _ _, ih _⟩

variable {w g c url} {t : Target} {st : σ}

theorem statusOf_leads (t : Target) (id : String) {request : Request} {reply : Reply}
    (h : Reply.Answered reply) (st : σ) :
    Leads (statusOf t id reply) st (.ok (Call.mk request reply).status) st := by
  match reply, h with
  | .ok r, _ => exact leads_pure _ st
  | .error (.transport kind message), _ => exact (leads_log _ _ _ _ st).bind (leads_pure _ st)

/-- A request is built of an address that can be read and a token that can be a header. -/
theorem build_eq_ok (hurl : Url.resolve t.url = .ok url)
    (htoken : ∀ ch ∈ c.token.toList, ch.toNat < 128) (id : String) :
    g.build t c id = .ok (g.request c id url) := by
  have hheader := headerFault?_eq_none (bearer_ascii htoken)
  simp only [build, hurl, Credential.authorization, hheader]

/-- A call is one exchange, and its status is that of the reply. -/
theorem counted_leads (hurl : Url.resolve t.url = .ok url)
    (htoken : ∀ ch ∈ c.token.toList, ch.toNat < 128)
    (hreply : Reply.Answered (g.exchange w c url st).1.reply) :
    Leads (g.counted w t c) st (.ok (g.exchange w c url st).1.status)
      (g.exchange w c url st).2 := by
  have hbuild := g.build_eq_ok hurl htoken (w.newId st).1
  have hcall : Leads (g.call w t c) st (.ok (g.exchange w c url st).1.status)
      (g.exchange w c url st).2 := by
    refine (leads_newId w st).bind ?_
    rw [hbuild]
    refine (leads_ofExcept_ok _ _ _).bind ((leads_send w _ _).bind ?_)
    exact statusOf_leads t _ hreply _
  exact hcall.bind ((leads_record _ _).bind (leads_pure _ _))

/-- A burst is that many exchanges, each with an outcome. -/
theorem repeated_leads (hurl : Url.resolve t.url = .ok url)
    (htoken : ∀ ch ∈ c.token.toList, ch.toNat < 128) (n : Nat) :
    ∀ st : σ, (∀ call ∈ (g.exchanges w c url n st).1, Reply.Answered call.reply) →
      Leads (g.repeated w t c n) st
        (.ok (((g.exchanges w c url n st).1.map Call.status).map Outcome.ofStatus))
        (g.exchanges w c url n st).2 := by
  induction n with
  | zero =>
    intro st _
    exact leads_pure _ st
  | succ n ih =>
    intro st h
    have hfirst := h _ List.mem_cons_self
    have hrest := ih (g.exchange w c url st).2 fun call hcall =>
      h call (List.mem_cons_of_mem _ hcall)
    exact (counted_leads hurl htoken hfirst).bind (hrest.bind (leads_pure _ _))

/-- The counts of a burst are those of its replies. -/
theorem burst_leads (hurl : Url.resolve t.url = .ok url)
    (htoken : ∀ ch ∈ c.token.toList, ch.toNat < 128) {count : Int} (hcount : 1 ≤ count)
    (h : ∀ call ∈ (g.exchanges w c url count.toNat st).1, Reply.Answered call.reply) :
    Leads (g.burst w t c count) st
      (.ok (.ofStatuses ((g.exchanges w c url count.toNat st).1.map Call.status)))
      (g.exchanges w c url count.toNat st).2 := by
  have hnot : ¬ count < 1 := by omega
  unfold burst
  rw [if_neg hnot]
  refine (repeated_leads hurl htoken count.toNat st h).bind ?_
  exact (leads_log _ _ _ _ _).bind (leads_pure _ _)

theorem probe_leads (hurl : Url.resolve t.url = .ok url)
    (htoken : ∀ ch ∈ c.token.toList, ch.toNat < 128)
    (hreply : Reply.Answered (g.exchange w c url st).1.reply) :
    Leads (g.probe w t c) st (.ok ⟨t.name, (g.exchange w c url st).1.status⟩)
      (g.exchange w c url st).2 :=
  (counted_leads hurl htoken hreply).bind ((leads_log _ _ _ _ _).bind (leads_pure _ _))

end GatewayClient

/-! ## Logins and waits -/

/-- The credential of a caller that was given a token. -/
def Identity.granted (i : Identity) (token : String) : Credential :=
  { username := i.username, token := token, label := i.label }

namespace LoginService

variable {w : World σ} {l : LoginService} {i : Identity} {url : Url}

/-- What a login comes to, from what its reply was judged to be. -/
def outcome (i : Identity) : Except LoginFailure String → Except Fault Credential
  | .error failure => .error (failure.fault i.username)
  | .ok token => .ok (i.granted token)

/-- What a login comes to by its reply. -/
def ending (i : Identity) (reply : Reply) : Except Fault Credential :=
  (judge reply).bind (outcome i)

/-- A login is one request, and ends as its reply is judged. -/
theorem acquire_ends (v : Session σ) (hurl : Url.resolve l.loginUrl = .ok url) :
    Ends Session.unlogged (l.acquire w i) v
      (ending i (w.send (l.request i url) v.world).1.reply)
      { v with world := (w.send (l.request i url) v.world).2
               opened := if l.shared then v.opened else v.opened ++ [l.timeout] } := by
  have hreport (judged : Except LoginFailure String) (v : Session σ) :
      Ends Session.unlogged (report i judged) v (.ok ()) v := by
    match judged with
    | .error (.unavailable _) => exact ends_log v _ _ _ _
    | .error (.rejected _ _) => exact ends_log v _ _ _ _
    | .error (.notJson _) | .error (.tooDeep _) => exact ends_pure _ v
    | .error (.malformed _) => exact ends_log v _ _ _ _
    | .ok _ => exact ends_log v _ _ _ _
  have hend (judged : Except LoginFailure String) (v : Session σ) : Ends Session.unlogged
      (match judged with
        | .error failure => throw (failure.fault i.username)
        | .ok token => return { username := i.username, token := token, label := i.label })
      v (outcome i judged) v := by
    cases judged with
    | error failure => exact ends_throw _ v
    | ok token => exact ends_pure _ v
  unfold acquire
  rw [hurl]
  -- a connection of its own is noted first
  cases hshared : l.shared
  case' false => refine (ends_openConnection v _).bind ?_
  all_goals
    refine (ends_pure url _).bind ((ends_send _ w _).bind ?_)
    rw [ending]
    cases judge (w.send (l.request i url) v.world).1.reply with
    | error fault => exact (ends_throw fault _).bind_error
    | ok judged => exact (ends_pure judged _).bind ((hreport judged _).bind (hend judged _))

/-- A login whose answer holds a token gives the credential. -/
theorem acquire_leads {st : σ} {r : Response} {token : String}
    (hurl : Url.resolve l.loginUrl = .ok url)
    (hreply : (w.send (l.request i url) st).1.reply = .ok r)
    (hjudge : judgeResponse r = .ok token) :
    Leads (l.acquire w i) st (.ok (i.granted token)) (w.send (l.request i url) st).2 := by
  apply Leads.of_unlogged
  rintro v rfl
  have hend := acquire_ends (w := w) (i := i) v hurl
  rw [hreply, ending, judge, hjudge] at hend
  exact ⟨_, hend, rfl⟩

end LoginService

namespace Scenario

variable {w : World σ} {a : Aligner} {st : σ}

theorem align_leads {seconds : Binary64} (hw : 0 < a.window) (hm : 0 ≤ a.margin)
    (hseconds : secondsOfMillis (a.waitAt (w.readClock st).1) = some seconds)
    (hsleep : (w.sleep (.binary seconds) (w.readClock st).2).1 = .ok ()) :
    Leads (a.align w) st
      (.ok ⟨(w.readClock st).1, a.window, a.margin, a.waitAt (w.readClock st).1⟩)
      (w.sleep (.binary seconds) (w.readClock st).2).2 := by
  refine (leads_readClock w st).bind ?_
  rw [Aligner.waitFor_eq hw hm]
  refine (leads_ofExcept_ok _ _ _).bind ((leads_log _ _ _ _ _).bind ?_)
  rw [hseconds]
  exact (leads_sleep hsleep).bind (leads_pure _ _)

theorem alignWindow_of_align {al : Alignment} {seconds : Binary64} {st' : σ}
    (halign : Leads (a.align w) st (.ok al) st') (hseconds : al.waitSeconds = some seconds) :
    Leads (alignWindow w a) st (.ok al) st' := by
  refine halign.bind ?_
  rw [hseconds]
  exact (leads_record _ _).bind ((leads_log _ _ _ _ _).bind (leads_pure _ _))

/-- A wait that ends is described by the reading before it. -/
theorem alignWindow_leads {seconds : Binary64} (hw : 0 < a.window) (hm : 0 ≤ a.margin)
    (hseconds : secondsOfMillis (a.waitAt (w.readClock st).1) = some seconds)
    (hsleep : (w.sleep (.binary seconds) (w.readClock st).2).1 = .ok ()) :
    Leads (alignWindow w a) st
      (.ok ⟨(w.readClock st).1, a.window, a.margin, a.waitAt (w.readClock st).1⟩)
      (w.sleep (.binary seconds) (w.readClock st).2).2 :=
  alignWindow_of_align (align_leads hw hm hseconds hsleep) hseconds

theorem align_overflow (hw : 0 < a.window) (hm : 0 ≤ a.margin) (h : ¬ a.Fits (w.readClock st).1) :
    Leads (a.align w) st (.error .secondsOverflow) (w.readClock st).2 := by
  refine (leads_readClock w st).bind ?_
  rw [Aligner.waitFor_eq hw hm]
  refine (leads_ofExcept_ok _ _ _).bind ((leads_log _ _ _ _ _).bind ?_)
  rw [(Aligner.secondsOfMillis_waitAt hw hm).2 h]
  exact leads_throw _ _

/-- A wait without a number of seconds ends the run. -/
theorem alignWindow_overflow (hw : 0 < a.window) (hm : 0 ≤ a.margin)
    (h : ¬ a.Fits (w.readClock st).1) :
    Leads (alignWindow w a) st (.error .secondsOverflow) (w.readClock st).2 :=
  (align_overflow hw hm h).bind_error

/-! ## The experiments -/

variable {s : Scenario} {cA cB : Credential} {st₀ st₁ st₂ st₃ st₄ st₅ st₆ st₇ st₈ : σ}
  {alA alB : Alignment} {burstA burstB : Tally} {probeA probeB : Probe}

theorem experiments_ends_first {e : Fault}
    (hA : Leads (s.auth.acquire w s.callerA) st₀ (.ok cA) st₁)
    (hB : Leads (s.auth.acquire w s.callerB) st₁ (.ok cB) st₂)
    (halign : Leads (alignWindow w s.aligner) st₂ (.error e) st₃) :
    Leads (s.experiments w) st₀ (.error e) st₃ := by
  refine (leads_setPhase _ _).bind (hA.bind (hB.bind ((leads_setPhase _ _).bind ?_)))
  exact halign.bind_error

theorem experiments_ends_second {e : Fault}
    (hA : Leads (s.auth.acquire w s.callerA) st₀ (.ok cA) st₁)
    (hB : Leads (s.auth.acquire w s.callerB) st₁ (.ok cB) st₂)
    (halignA : Leads (alignWindow w s.aligner) st₂ (.ok alA) st₃)
    (hburstA : Leads (s.gateway.burst w s.users cA s.burstRequests) st₃ (.ok burstA) st₄)
    (hprobeA : Leads (s.gateway.probe w s.orders cA) st₄ (.ok probeA) st₅)
    (halignB : Leads (alignWindow w s.aligner) st₅ (.error e) st₆) :
    Leads (s.experiments w) st₀ (.error e) st₆ := by
  refine (leads_setPhase _ _).bind (hA.bind (hB.bind ((leads_setPhase _ _).bind ?_)))
  refine halignA.bind (hburstA.bind (hprobeA.bind ((leads_setPhase _ _).bind ?_)))
  exact halignB.bind_error

theorem experiments_leads (hA : Leads (s.auth.acquire w s.callerA) st₀ (.ok cA) st₁)
    (hB : Leads (s.auth.acquire w s.callerB) st₁ (.ok cB) st₂)
    (halignA : Leads (alignWindow w s.aligner) st₂ (.ok alA) st₃)
    (hburstA : Leads (s.gateway.burst w s.users cA s.burstRequests) st₃ (.ok burstA) st₄)
    (hprobeA : Leads (s.gateway.probe w s.orders cA) st₄ (.ok probeA) st₅)
    (halignB : Leads (alignWindow w s.aligner) st₅ (.ok alB) st₆)
    (hburstB : Leads (s.gateway.burst w s.users cA s.burstRequests) st₆ (.ok burstB) st₇)
    (hprobeB : Leads (s.gateway.probe w s.users cB) st₇ (.ok probeB) st₈) :
    Leads (s.experiments w) st₀ (.ok ⟨alA, burstA, probeA, alB, burstB, probeB⟩) st₈ := by
  refine (leads_setPhase _ _).bind (hA.bind (hB.bind ((leads_setPhase _ _).bind ?_)))
  refine halignA.bind (hburstA.bind (hprobeA.bind ((leads_setPhase _ _).bind ?_)))
  exact halignB.bind (hburstB.bind (hprobeB.bind (leads_pure _ _)))

end Scenario

/-! ## The whole run -/

/-- The run that settings describe, under their own window and margin. -/
def Settings.scenario (s : Settings) : Scenario := .ofSettings s ⟨s.windowMs, s.alignMarginMs⟩

/-- The id of a run, which is a new one unless it is given, and the state after it. -/
def World.startRun (w : World σ) (runId : Option String) (st : σ) : String × σ :=
  match runId with
  | some id => (id, st)
  | none => w.newId st

/-- A run begins by taking its id. -/
theorem beginRun_run (w : World σ) (runId : Option String) (s : Session σ) :
    (beginRun w runId).run.run s = (.ok (w.startRun runId s.world).1,
      { s with
        world := (w.startRun runId s.world).2
        context := { s.context with runId := some (w.startRun runId s.world).1 } }) := by
  cases runId <;> rfl

theorem aligner_make {window margin : Int} (hw : 0 < window) (hm : 0 ≤ margin) :
    Aligner.make window margin = .ok ⟨window, margin⟩ :=
  Aligner.make_eq_ok_iff.2 ⟨hw, hm, rfl⟩

theorem Scenario.reportChecks_leads (checks : List Check) (st : σ) :
    Leads (checks.forM reportCheck) st (.ok ()) st :=
  leads_forM (fun _ _ => (leads_record _ _).bind (leads_log _ _ _ _ _)) checks st

theorem Scenario.conclude_leads (id : String) (f : Findings) (st : σ) :
    Leads (conclude id f) st (.ok (f.result id)) st := by
  refine (leads_setPhase _ _).bind ((reportChecks_leads _ _).bind ?_)
  exact (leads_setPhase _ _).bind (leads_pure _ _)

theorem Scenario.reportAbort_leads (e : Fault) (st : σ) :
    Leads (reportAbort e) st (.ok ()) st := by
  unfold reportAbort
  split
  · exact (leads_log _ _ _ _ _).bind (leads_record _ _)
  · exact leads_pure _ _

/-- The guard of the experiments keeps their end. -/
theorem Scenario.guarded_leads {α : Type} {x : Harness σ α} {r : Except Fault α} {st st' : σ}
    (h : Leads x st r st') : Leads (guarded x) st r st' := by
  refine Leads.ensuring (fun st => leads_setPhase _ st) (Leads.tryCatch ?_ h)
  intro e st
  exact (reportAbort_leads e st).bind (leads_throw _ _)

/-- **A run ends as its experiments do.**  Under a window that is longer than nothing and a margin
    that is not negative, the results are those of what the experiments found, and a fault of the
    experiments is the fault of the run. -/
theorem runScenario_leads {w : World σ} {settings : Settings} {shared : Bool}
    {runId : Option String} {st st' : σ} {r : Except Fault Findings}
    (hw : 0 < settings.windowMs) (hm : 0 ≤ settings.alignMarginMs)
    (h : Leads (settings.scenario.experiments w) (w.startRun runId st).2 r st') :
    Leads (runScenario w settings shared runId) st
      (r.map fun f => f.result (w.startRun runId st).1) st' := by
  have hbegin : Leads (beginRun w runId) st (.ok (w.startRun runId st).1)
      (w.startRun runId st).2 := by
    rintro s rfl
    exact ⟨_, beginRun_run w runId s, rfl⟩
  unfold runScenario
  rw [aligner_make hw hm]
  refine (leads_ofExcept_ok _ _ _).bind ?_
  split
  case' isTrue => refine (leads_openConnection _ st).bind ?_
  all_goals
    refine hbegin.bind ((leads_log _ _ _ _ _).bind ?_)
    cases r with
    | ok f => exact (Scenario.guarded_leads h).bind (Scenario.conclude_leads _ _ _)
    | error e => exact (Scenario.guarded_leads h).bind_error

/-! ## The default settings -/

/-- The default settings with a window of some length. -/
def Settings.ofWindow (window : Int) : Settings where
  apiBaseUrl := "http://localhost:8085"
  authBaseUrl := "http://localhost:8084"
  usersPath := "/api/v1/users"
  ordersPath := "/api/v1/orders"
  username := "user_all"
  password := "123"
  usernameB := none
  passwordB := none
  burstRequests := 8
  windowMs := window
  alignMarginMs := 30
  requestTimeout := .ofRatio false 10 1
  logLevel := "info"

/-- The addresses of the default settings. -/
def Url.local (port : Int) (path : String) : Url :=
  { scheme := "http", host := "localhost", port := some port, path := path }

namespace Settings

/-- The window does not matter for the addresses. -/
theorem resolve_login (window : Int) :
    Url.resolve (ofWindow window).scenario.auth.loginUrl = .ok (Url.local 8084 "/auth/login") := by
  have hurl : (ofWindow window).scenario.auth.loginUrl = (ofWindow 0).scenario.auth.loginUrl := rfl
  rw [hurl]
  rfl

theorem resolve_users (window : Int) :
    Url.resolve (ofWindow window).scenario.users.url = .ok (Url.local 8085 "/api/v1/users") := by
  have hurl : (ofWindow window).scenario.users.url = (ofWindow 0).scenario.users.url := rfl
  rw [hurl]
  rfl

theorem resolve_orders (window : Int) :
    Url.resolve (ofWindow window).scenario.orders.url = .ok (Url.local 8085 "/api/v1/orders") := by
  have hurl : (ofWindow window).scenario.orders.url = (ofWindow 0).scenario.orders.url := rfl
  rw [hurl]
  rfl

/-- No wait of the default settings is too long. -/
theorem fits_default (now : Int) : (ofWindow 1000).scenario.aligner.Fits now := by
  apply Aligner.fits_of_le (by decide) (by decide)
  exact Alignment.lt_waitLimit (by decide)

end Settings

end RateIsolation
