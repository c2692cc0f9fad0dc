/-
  What a login makes of each reply.

  * `Reply.Gives` is a reply with a usable token, `Reply.Denies` one that is no
    answer of status 200, and `Reply.Lacks` an answer of that status without a
    usable token; the last two tell the message and the details of the failure;
    a reply that escapes (`Reply.Escapes`) is neither;
  * `Reply.exists_denies_iff` and `Reply.exists_lacks_iff` say which replies these
    are, `Reply.classified` that there are no others;
  * `LoginService.acquire_classifies`: a login is one request, and ends in a
    credential, in a failed login, in a missing field, or in the fault of a reply
    that escapes, by which of the four its reply is; `acquire_unreadable` is a
    rejection that is no failed login.
-/
import RateIsolation.Proofs.FatalLogin

namespace RateIsolation

open Harness

variable {σ : Type}

namespace Reply

/-! ## The kinds of replies -/

/-- No answer, or one of another status than 200 whose body has a text: what is reported of it. -/
inductive Denies (username : String) : Reply → String → Json → Prop
  | transport (kind : TransportFailure) (text : String) :
    Denies username (.error (.transport kind text)) "Auth service unavailable"
      (.record [("username", .text username), ("http_error", .text text)])
  | status {r : Response} {body : WideText} (hstatus : r.status ≠ 200) (htext : r.text = .ok body) :
    Denies username (.ok r) ("login failed: status=" ++ toString r.status)
      (.record [("username", .text username), ("status_code", .int r.status),
        ("body", .str (body.take 512))])

/-- An answer of status 200 whose body is a text that is not JSON, or has no usable token: what is
    reported of it. -/
inductive Lacks (username : String) : Reply → String → Json → Prop
  | notJson {r : Response} {e : Json.BodyError} {body : WideText} (hstatus : r.status = 200)
    (hjson : r.json = .error e) (hdeep : ∀ bracket, e ≠ .tooDeep bracket)
    (htext : r.text = .ok body) :
    Lacks username (.ok r) "login response is not JSON"
      (.record [("username", .text username), ("body", .str (body.take 512))])
  | malformed {r : Response} {body : Json} {fault : TokenFault} (hstatus : r.status = 200)
    (hjson : r.json = .ok body) (hread : readToken body = .error fault) :
    Lacks username (.ok r) "Response is missing field 'token'"
      (.record [("username", .text username), ("errors", .arr [fault.toJson])])

variable {reply : Reply} {username message : String} {details : Json}

theorem exists_denies_iff :
    (∃ message details, Denies username reply message details) ↔
      (∃ kind text, reply = .error (.transport kind text)) ∨
        ∃ r : Response, reply = .ok r ∧ r.status ≠ 200 ∧ ∀ fault, ¬ r.Escapes fault := by
  constructor
  · rintro ⟨_, _, h⟩
    cases h with
    | transport kind text => exact Or.inl ⟨kind, text, rfl⟩
    | status hstatus htext =>
      refine Or.inr ⟨_, rfl, hstatus, ?_⟩
      rintro fault (⟨-, hnone⟩ | ⟨hok, -⟩)
      · cases htext.symm.trans hnone
      · exact hstatus hok
  · rintro (⟨kind, text, rfl⟩ | ⟨r, rfl, hstatus, hnot⟩)
    · exact ⟨_, _, .transport kind text⟩
    · obtain ⟨body, htext⟩ := Response.text_of_status hnot hstatus
      exact ⟨_, _, .status hstatus htext⟩

theorem exists_lacks_iff :
    (∃ message details, Lacks username reply message details) ↔
      ∃ r : Response, reply = .ok r ∧ r.status = 200 ∧ (∀ token, ¬ r.HasToken token) ∧
        ∀ fault, ¬ r.Escapes fault := by
  constructor
  · rintro ⟨_, _, h⟩
    cases h with
    | notJson hstatus hjson hdeep htext =>
      refine ⟨_, rfl, hstatus, ?_, ?_⟩
      · rintro token ⟨members, hbody, -⟩
        cases hjson.symm.trans hbody
      · rintro fault (⟨-, hnone⟩ | ⟨-, htooDeep⟩)
        · cases htext.symm.trans hnone
        · cases hjson.symm.trans htooDeep
          exact hdeep _ rfl
    | malformed hstatus hjson hread =>
      refine ⟨_, rfl, hstatus, ?_, ?_⟩
      · rintro token ⟨members, hbody, htoken⟩
        cases hjson.symm.trans hbody
        cases hread.symm.trans (readToken_eq_ok_iff.2 ⟨members, rfl, htoken⟩)
      · rintro fault (⟨hother | ⟨e, herror, -⟩, -⟩ | ⟨-, htooDeep⟩)
        · exact hother hstatus
        · cases hjson.symm.trans herror
        · cases hjson.symm.trans htooDeep
  · rintro ⟨r, rfl, hstatus, hnone, hnot⟩
    cases hjson : r.json with
    | error e =>
      obtain ⟨hdeep, body, htext⟩ := Response.text_of_notJson hnot hstatus hjson
      exact ⟨_, _, .notJson hstatus hjson hdeep htext⟩
    | ok body =>
      cases hread : readToken body with
      | error fault => exact ⟨_, _, .malformed hstatus hjson hread⟩
      | ok token =>
        obtain ⟨members, rfl, htoken⟩ := readToken_eq_ok_iff.1 hread
        exact absurd ⟨members, hjson, htoken⟩ (hnone token)

/-- The message tells a body that is not JSON from one without a usable token. -/
theorem Lacks.message_iff (h : Lacks username reply message details) :
    message = "login response is not JSON" ↔ ∃ r e, reply = .ok r ∧ Response.json r = .error e := by
  cases h with
  | notJson _ hjson _ _ => exact ⟨fun _ => ⟨_, _, rfl, hjson⟩, fun _ => rfl⟩
  | malformed _ hjson =>
    refine ⟨fun h => absurd h (by decide), ?_⟩
    rintro ⟨_, _, ⟨⟩, herror⟩
    cases hjson.symm.trans herror

/-- Every reply is of one of the four kinds. -/
theorem classified (username : String) (reply : Reply) :
    (∃ token, Reply.Gives reply token) ∨
      (∃ message details, Denies username reply message details) ∨
      (∃ message details, Lacks username reply message details) ∨
      ∃ fault, Escapes reply fault := by
  by_cases hescapes : ∃ fault, Escapes reply fault
  · exact Or.inr (Or.inr (Or.inr hescapes))
  have hnot {r : Response} (hr : reply = .ok r) (fault : Fault) (h : r.Escapes fault) : False :=
    hescapes ⟨fault, hr ▸ .answer h⟩
  rcases classes reply with hgives | ⟨code, hrefuses⟩ | h
  · exact Or.inl hgives
  · cases hrefuses with
    | transport kind text => exact Or.inr (Or.inl ⟨_, _, .transport kind text⟩)
    | status hstatus =>
      exact Or.inr (Or.inl (exists_denies_iff.2 (Or.inr ⟨_, rfl, hstatus, hnot rfl⟩)))
    | body hstatus hnone =>
      exact Or.inr (Or.inr (Or.inl (exists_lacks_iff.2 ⟨_, rfl, hstatus, hnone, hnot rfl⟩)))
  · exact absurd h hescapes

end Reply

namespace LoginService

variable {reply : Reply} {message : String} {details : Json} {i : Identity}

theorem ending_of_denies (h : Reply.Denies i.username reply message details) :
    ending i reply = .error (.harness (.authentication message details)) := by
  cases h with
  | transport kind text => rfl
  | status hstatus htext =>
    rw [ending_of_status i hstatus, reportedBody_of_text htext]
    rfl

theorem ending_of_lacks (h : Reply.Lacks i.username reply message details) :
    ending i reply = .error (.harness (.missingField "token" message details)) := by
  cases h with
  | notJson hstatus hjson hdeep htext =>
    rw [ending_of_notJson i hstatus hjson hdeep, reportedBody_of_text htext]
    rfl
  | malformed hstatus hjson hread => exact ending_of_malformed i hstatus hjson hread

/-! ## Logins -/

/-- The end of a login by its reply. -/
inductive EndsIn (i : Identity) (reply : Reply) : Except Fault Credential → Prop
  | credential {token : String} (h : Reply.Gives reply token) :
    EndsIn i reply (.ok { username := i.username, token := token, label := i.label })
  | denied {message : String} {details : Json} (h : Reply.Denies i.username reply message details) :
    EndsIn i reply (.error (.harness (.authentication message details)))
  | lacking {message : String} {details : Json} (h : Reply.Lacks i.username reply message details) :
    EndsIn i reply (.error (.harness (.missingField "token" message details)))
  | escaped {fault : Fault} (h : Reply.Escapes reply fault) : EndsIn i reply (.error fault)

/-- A login comes to an end of its reply, and to no other. -/
theorem endsIn_iff {r : Except Fault Credential} : EndsIn i reply r ↔ r = ending i reply := by
  have hends {r : Except Fault Credential} (h : EndsIn i reply r) : r = ending i reply := by
    cases h with
    | credential h => exact (ending_of_gives i h).symm
    | denied h => exact (ending_of_denies h).symm
    | lacking h => exact (ending_of_lacks h).symm
    | escaped h => exact (ending_of_escapes i h).symm
  have hexists : ∃ r, EndsIn i reply r := by
    rcases Reply.classified i.username reply with ⟨token, h⟩ | ⟨message, details, h⟩ |
      ⟨message, details, h⟩ | ⟨fault, h⟩
    · exact ⟨_, .credential h⟩
    · exact ⟨_, .denied h⟩
    · exact ⟨_, .lacking h⟩
    · exact ⟨_, .escaped h⟩
  refine ⟨hends, ?_⟩
  rintro rfl
  obtain ⟨r, h⟩ := hexists
  rwa [← hends h]

/-- The end of a login is that of its reply: a credential, a failed login, a missing field, the fault
    of a reply that escapes, and nothing else. -/
structure Classified (i : Identity) (reply : Reply) (r : Except Fault Credential) : Prop where
  credential : ∀ c, r = .ok c ↔ ∃ token, Reply.Gives reply token ∧
    c = { username := i.username, token := token, label := i.label }
  authentication : ∀ message details,
    r = .error (.harness (.authentication message details)) ↔
      Reply.Denies i.username reply message details
  missing : ∀ field message details,
    r = .error (.harness (.missingField field message details)) ↔
      field = "token" ∧ Reply.Lacks i.username reply message details
  -- which replies the last two are
  denied : (∃ message details, r = .error (.harness (.authentication message details))) ↔
    (∃ kind text, reply = .error (.transport kind text)) ∨
      ∃ answer : Response, reply = .ok answer ∧ answer.status ≠ 200 ∧
        ∀ fault, ¬ answer.Escapes fault
  lacking : (∃ field message details,
    r = .error (.harness (.missingField field message details))) ↔
      ∃ answer : Response, reply = .ok answer ∧ answer.status = 200 ∧
        (∀ token, ¬ answer.HasToken token) ∧ ∀ fault, ¬ answer.Escapes fault
  notJson : ∀ field message details,
    r = .error (.harness (.missingField field message details)) →
      (message = "login response is not JSON" ↔
        ∃ answer e, reply = .ok answer ∧ Response.json answer = .error e)
  -- both failures are of a login, and the code tells them apart
  code : ∀ e, r = .error (.harness e) → e.isAuthentication = true ∧
    (e.code = "MISSING_FIELD_ERROR" ↔ ∃ field message details, e = .missingField field message details)
  escaped : ∀ fault, (r = .error fault ∧ ∀ e, fault ≠ .harness e) ↔ Reply.Escapes reply fault
  exhaustive : (∃ c, r = .ok c) ∨
    (∃ message details, r = .error (.harness (.authentication message details))) ∨
    (∃ field message details, r = .error (.harness (.missingField field message details))) ∨
    ∃ fault, r = .error fault ∧ Reply.Escapes reply fault

/-- Where the ends of a reply are one, it is told by what kind the reply is of. -/
theorem classified_of_endsIn {i : Identity} {r : Except Fault Credential}
    (h : ∀ r', EndsIn i reply r' ↔ r' = r) : Classified i reply r := by
  have hr : EndsIn i reply r := (h r).2 rfl
  have hcredential (c : Credential) : r = .ok c ↔ ∃ token, Reply.Gives reply token ∧
      c = { username := i.username, token := token, label := i.label } := by
    constructor
    · rintro rfl
      cases hr with
      | credential hgives => exact ⟨_, hgives, rfl⟩
    · rintro ⟨token, hgives, rfl⟩
      exact ((h _).1 (.credential hgives)).symm
  have hdenied (message : String) (details : Json) :
      r = .error (.harness (.authentication message details)) ↔
        Reply.Denies i.username reply message details := by
    constructor
    · rintro rfl
      cases hr with
      | denied hdenies => exact hdenies
      | escaped hescapes => exact absurd rfl (hescapes.unreported _)
    · intro hdenies
      exact ((h _).1 (.denied hdenies)).symm
  have hlacking (field message : String) (details : Json) :
      r = .error (.harness (.missingField field message details)) ↔
        field = "token" ∧ Reply.Lacks i.username reply message details := by
    constructor
    · rintro rfl
      cases hr with
      | lacking hlacks => exact ⟨rfl, hlacks⟩
      | escaped hescapes => exact absurd rfl (hescapes.unreported _)
    · rintro ⟨rfl, hlacks⟩
      exact ((h _).1 (.lacking hlacks)).symm
  refine ⟨hcredential, hdenied, hlacking, ?_, ?_, ?_, ?_, ?_, ?_⟩
  · simp only [hdenied]
    exact Reply.exists_denies_iff
  · simp only [hlacking, exists_eq_left, exists_and_left]
    exact Reply.exists_lacks_iff
  · intro field message details hfield
    exact ((hlacking field message details).1 hfield).2.message_iff
  · rintro e rfl
    cases hr with
    | denied => exact ⟨rfl, by simp [HarnessError.code]⟩
    | lacking => exact ⟨rfl, fun _ => ⟨_, _, _, rfl⟩, fun _ => rfl⟩
    | escaped hescapes => exact absurd rfl (hescapes.unreported _)
  · intro fault
    constructor
    · rintro ⟨rfl, hunreported⟩
      cases hr with
      | denied | lacking => exact absurd rfl (hunreported _)
      | escaped hescapes => exact hescapes
    · intro hescapes
      exact ⟨((h _).1 (.escaped hescapes)).symm, hescapes.unreported⟩
  · cases hr with
    | credential => exact Or.inl ⟨_, rfl⟩
    | denied => exact Or.inr (Or.inl ⟨_, _, rfl⟩)
    | lacking => exact Or.inr (Or.inr (Or.inl ⟨_, _, _, rfl⟩))
    | escaped hescapes => exact Or.inr (Or.inr (Or.inr ⟨_, rfl, hescapes⟩))

/-- **A login classifies every reply.**  Against any outside, at any address that can be read, a login
    posts the user name and the password once: it gives a credential exactly if the reply gives a
    token, is a failed login exactly if the transport failed or the answer has another status than
    200, and lacks the token in every other case, but for the replies that escape: these end the
    login in a fault that is none of its failures. -/
theorem acquire_classifies (w : World σ) (l : LoginService) (i : Identity) {url : Url}
    (hurl : Url.resolve l.loginUrl = .ok url) (s : Session (σ × List WorldEvent)) :
    let request : Request :=
      { method := "POST"
        url := url
        authorization := authorizationFor url none
        requestId := none
        timeout := l.timeout
        body := some (.record [("username", .text i.username), ("password", .text i.password)]) }
    let reply := (w.send request s.world.1).1.reply
    ∃ r s', (l.acquire w.recording i).run.run s = (r, s') ∧
      s'.world.2 = s.world.2 ++ [.sent request reply] ∧ Classified i reply r := by
  intro request reply
  have hends : Ends Session.unlogged (l.acquire w.recording i) s.unlogged (ending i reply) _ :=
    acquire_ends s.unlogged hurl
  obtain ⟨s', hrun, hs'⟩ := hends s rfl
  exact ⟨ending i reply, s', hrun, congrArg (fun v => v.world.2) hs',
    classified_of_endsIn fun r => endsIn_iff⟩

/-- The ends of a login with the default settings that it reports. -/
theorem acquire_classifies_default :
    let login := (Settings.ofWindow 1000).scenario.auth.acquire World.replying.recording
      (Settings.ofWindow 1000).scenario.callerA
    (∃ s', login.run.run { world := ([.ok (.granting "t")], []) } =
      (.ok ⟨"user_all", "t", "a"⟩, s')) ∧
    (∃ message details s', login.run.run { world := ([.ok { status := 401 }], []) } =
      (.error (.harness (.authentication message details)), s')) ∧
    ∃ details s', login.run.run { world := ([.ok { status := 200 }], []) } =
      (.error (.harness (.missingField "token" "login response is not JSON" details)), s') := by
  have hends (reply : Reply) :=
    acquire_classifies World.replying (Settings.ofWindow 1000).scenario.auth
      (Settings.ofWindow 1000).scenario.callerA (Settings.resolve_login 1000)
      { world := ([reply], []) }
  refine ⟨?_, ?_, ?_⟩
  · obtain ⟨r, s', hrun, -, h⟩ := hends (.ok (.granting "t"))
    have htoken : Reply.Gives (.ok (.granting "t")) "t" :=
      ⟨.granting "t", rfl, judgeResponse_eq_ok_iff.1 rfl⟩
    cases (h.credential _).2 ⟨"t", htoken, rfl⟩
    exact ⟨s', hrun⟩
  · obtain ⟨r, s', hrun, -, h⟩ := hends (.ok { status := 401 })
    cases (h.authentication _ _).2 (.status (by decide) rfl)
    exact ⟨_, _, s', hrun⟩
  · obtain ⟨r, s', hrun, -, h⟩ := hends (.ok { status := 200 })
    cases (h.missing "token" _ _).2 ⟨rfl, .notJson rfl rfl nofun rfl⟩
    exact ⟨_, s', hrun⟩

/-- A rejection whose body has no text is no failed login, nor is the token missing. -/
theorem acquire_unreadable :
    Response.unreadable.status ≠ 200 ∧
    ∃ s', ((Settings.ofWindow 1000).scenario.auth.acquire World.replying.recording
        (Settings.ofWindow 1000).scenario.callerA).run.run { world := ([.ok .unreadable], []) } =
      (.error (.decoding (.unmarked "UTF-16")), s') := by
  have hends := acquire_ends (w := World.replying.recording)
    (l := (Settings.ofWindow 1000).scenario.auth)
    (i := (Settings.ofWindow 1000).scenario.callerA)
    ({ world := ([.ok .unreadable], []) } : Session (List Reply × List WorldEvent))
    (Settings.resolve_login 1000)
  obtain ⟨s', hrun, -⟩ := hends { world := ([.ok .unreadable], []) } rfl
  exact ⟨by decide, s', hrun⟩

end LoginService

end RateIsolation
