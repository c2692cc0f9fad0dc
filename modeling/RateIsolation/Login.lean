/-
  Logging in.

  A caller posts its user name and password to the login address of the
  auth service; an answer of status 200 whose body is an object with a text
  under `token` that is not empty gives a credential.

  * `TokenFault` and `readToken`: what is wrong with a body, and the token of
    one with which nothing is (`readToken_eq_ok_iff`);
  * `LoginFailure`: why a login gave no credential; `LoginFailure.fault` is the
    report of it, or what keeps the report from being made;
  * `LoginService.judge` decides on a reply alone; `LoginService.acquire`
    sends the request and writes the log.
-/
import RateIsolation.Identity
import RateIsolation.Session

namespace RateIsolation

/-! ## The body of an answer -/

/-- What is wrong with the body of a login answer. -/
inductive TokenFault where
  /-- The body is no object. -/
  | notObject (input : Json)
  /-- The object has no token. -/
  | missing (input : Json)
  /-- The token is no text. -/
  | notText (input : Json)
  /-- The token holds a lone surrogate. -/
  | notUnicode (input : Json)
  /-- The token is empty. -/
  | empty (input : Json)
deriving Repr

namespace TokenFault

/-- The kind of a fault. -/
def kind : TokenFault → String
  | notObject _ => "model_type"
  | missing _ => "missing"
  | notText _ => "string_type"
  | notUnicode _ => "string_unicode"
  | empty _ => "string_too_short"

/-- Where the fault is. -/
def location : TokenFault → List String
  | notObject _ => []
  | _ => ["token"]

/-- The words for a fault. -/
def message : TokenFault → String
  | notObject _ => "Input should be a valid dictionary or instance of LoginResponse"
  | missing _ => "Field required"
  | notText _ => "Input should be a valid string"
  | notUnicode _ => "Input should be a valid string, unable to parse raw data as a unicode string"
  | empty _ => "String should have at least 1 character"

/-- The value at fault. -/
def input : TokenFault → Json
  | notObject input => input
  | missing input => input
  | notText input => input
  | notUnicode input => input
  | empty input => input

/-- What the message speaks of, by name. -/
def context : TokenFault → List (String × Json)
  | notObject _ => [("class_name", .text "LoginResponse")]
  | empty _ => [("min_length", .int 1)]
  | _ => []

/-- The record of a fault. -/
def toJson (f : TokenFault) : Json :=
  .record ([("type", .text f.kind), ("loc", .texts f.location), ("msg", .text f.message),
    ("input", f.input)] ++ (if f.context.isEmpty then [] else [("ctx", .record f.context)]))

end TokenFault

/-- The token of a body. -/
def readToken (body : Json) : Except TokenFault String :=
  match body with
  | .obj members =>
    match Table.get? (.plain "token") members with
    | none => .error (.missing body)
    | some (.str (.plain s)) => if s.isEmpty then .error (.empty (.text s)) else .ok s
    | some (.str (.broken ps)) => .error (.notUnicode (.str (.broken ps)))
    | some other => .error (.notText other)
  | _ => .error (.notObject body)

theorem readToken_eq_ok_iff {body : Json} {token : String} :
    readToken body = .ok token ↔
      ∃ members, body = .obj members ∧
        Table.get? (.plain "token") members = some (.text token) ∧ token ≠ "" := by
  constructor
  · intro h
    unfold readToken at h
    split at h
    · rename_i members
      split at h
      · cases h
      · rename_i s hs
        split at h
        · cases h
        · rename_i hne
          simp only [Except.ok.injEq] at h
          subst h
          exact ⟨members, rfl, hs, fun h => hne (by simp [h])⟩
      · cases h
      · cases h
    · cases h
  · rintro ⟨members, rfl, hs, hne⟩
    simp [readToken, hs, Json.text, hne]

/-! ## Failures -/

/-- How much of a body is reported. -/
def reportedBodyLength : Nat := 512

/-- The start of a body that is reported, if the body has a text. -/
def reportedBody (r : Response) : Except DecodeFault WideText :=
  r.text.map (WideText.take reportedBodyLength)

/-- Why a login gave no credential. -/
inductive LoginFailure where
  /-- The transport failed. -/
  | unavailable (reason : String)
  /-- The answer has another status than 200. -/
  | rejected (status : Int) (body : Except DecodeFault WideText)
  /-- The body is not JSON. -/
  | notJson (body : Except DecodeFault WideText)
  /-- The body has too many levels. -/
  | tooDeep (bracket : Json.Bracket)
  /-- The body holds no usable token. -/
  | malformed (fault : TokenFault)
deriving Repr

/-- What a failed login ends in: its report, unless that would tell a body without a text, or none
    is made. -/
def LoginFailure.fault (username : String) : LoginFailure → Fault
  | unavailable reason =>
    .harness (.authentication "Auth service unavailable"
      (.record [("username", .text username), ("http_error", .text reason)]))
  | rejected status (.ok body) =>
    .harness (.authentication ("login failed: status=" ++ toString status)
      (.record [("username", .text username), ("status_code", .int status), ("body", .str body)]))
  | notJson (.ok body) =>
    .harness (.missing "token" (some "login response is not JSON")
      (.record [("username", .text username), ("body", .str body)]))
  | malformed fault =>
    .harness (.missing "token" none
      (.record [("username", .text username), ("errors", .arr [fault.toJson])]))
  | rejected _ (.error f) => .decoding f
  | notJson (.error f) => .decoding f
  | tooDeep bracket => .nesting bracket

/-! ## The service -/

/-- The auth service as a caller knows it. -/
structure LoginService where
  /-- The base address without slashes at its end. -/
  baseUrl : String
  timeout : Seconds := .binary (.ofRatio false 10 1)
  /-- Whether logins share a connection that is already open. -/
  shared : Bool := true
deriving Repr

namespace LoginService

/-- A service at a base address. -/
def ofAddress (url : String) (timeout : Seconds) (shared : Bool) : LoginService :=
  { baseUrl := stripSlashes url, timeout := timeout, shared := shared }

/-- The address of the login. -/
def loginUrl (l : LoginService) : String := l.baseUrl ++ "/auth/login"

/-- The logger of this module. -/
def logger : String := "ratecheck.auth_client"

/-- The body of a login request. -/
def loginBody (i : Identity) : Json :=
  .record [("username", .text i.username), ("password", .text i.password)]

/-- The request of a login. -/
def request (l : LoginService) (i : Identity) (url : Url) : Request where
  method := "POST"
  url := url
  authorization := authorizationFor url none
  requestId := none
  timeout := l.timeout
  body := some (loginBody i)

/-- The token that an answer gives. -/
def judgeResponse (r : Response) : Except LoginFailure String :=
  if r.status ≠ 200 then .error (.rejected r.status (reportedBody r))
  else
    match r.json with
    | .error (.tooDeep bracket) => .error (.tooDeep bracket)
    | .error _ => .error (.notJson (reportedBody r))
    | .ok body =>
      match readToken body with
      | .error fault => .error (.malformed fault)
      | .ok token => .ok token

/-- The token that a reply gives; a failure that is none of the transport's is passed on. -/
def judge (reply : Reply) : Except Fault (Except LoginFailure String) :=
  match reply with
  | .error (.transport _ message) => .ok (.error (.unavailable message))
  | .error other => .error (.send other)
  | .ok r => .ok (judgeResponse r)

variable {σ : Type}

/-- Write what came of a login to the log. -/
def report (i : Identity) : Except LoginFailure String → Harness σ Unit
  | .error (.unavailable reason) =>
    Harness.log logger .error "Login request failed"
      [("username", .text i.username), ("error", .text reason)]
  | .error (.rejected status _) =>
    Harness.log logger .error "Login rejected"
      [("username", .text i.username), ("status_code", .int status)]
  | .error (.notJson _) | .error (.tooDeep _) => pure ()
  | .error (.malformed _) =>
    Harness.log logger .error "Login response missing token" [("username", .text i.username)]
  | .ok _ =>
    Harness.log logger .info "Login succeeded"
      [("username", .text i.username), ("identity", .text i.name)]

/-- Log in once. -/
def acquire (w : World σ) (l : LoginService) (i : Identity) : Harness σ Credential := do
  if !l.shared then Harness.openConnection l.timeout
  let url ← Harness.ofExcept .url (Url.resolve l.loginUrl)
  let reply ← Harness.send w (l.request i url)
  let judged ← Harness.ofExcept id (judge reply)
  report i judged
  match judged with
  | .error failure => throw (failure.fault i.username)
  | .ok token => return { username := i.username, token := token, label := i.label }

end LoginService

end RateIsolation
