/-
  A gateway that answers by a script.

  Each path has a list of replies that are given in order, and a default
  reply after them; logins have a list of their own and, where it has nothing
  to say, give a numbered token.
-/
import RateIsolation.Http.Message
import RateIsolation.Json.Printer

namespace RateIsolation

/-- What a login is answered with. -/
inductive LoginBody where
  /-- A token with the next number. -/
  | numbered
  /-- A fixed text. -/
  | raw (text : String)
  /-- A fixed value. -/
  | value (v : Json)
deriving Repr

/-- A gateway that answers by a script. -/
structure Script where
  /-- The replies that are left, by path. -/
  routes : Table String (List Reply) := []
  loginStatus : Int := 200
  loginBody : LoginBody := .numbered
  /-- The reply where no script is left. -/
  otherwise : Reply
  /-- Replies to logins; where there is none the login is answered as usual. -/
  logins : List (Option Reply) := []
  tokensIssued : Nat := 0
  /-- All requests, in order. -/
  received : List Request := []

namespace Script

/-- The path of logins. -/
def loginPath : String := "/auth/login"

/-- An answer with a JSON body. -/
def jsonReply (status : Int) (body : Json) : Reply :=
  .ok { status := status, headers := [("Content-Type", "application/json")],
        body := utf8Bytes (body.render Json.compact) }

/-- The reply that a status stands for; the lack of one is a failed connection. -/
def replyOf : Option Int → Reply
  | some status => jsonReply status (.obj [])
  | none => .error (.transport .connect "scripted connection failure")

/-- The usual answer to a login. -/
def usualLogin (s : Script) : Reply × Script :=
  if s.loginStatus ≠ 200 then
    (jsonReply s.loginStatus (.record [("error", .text "invalid credentials")]), s)
  else
    match s.loginBody with
    | .numbered =>
      let n := s.tokensIssued + 1
      (jsonReply 200 (.record [("token", .text ("token-" ++ toString n))]), { s with tokensIssued := n })
    | .raw text =>
      (.ok { status := 200, headers := [("Content-Type", "text/plain; charset=utf-8")],
             body := utf8Bytes text }, s)
    | .value v => (jsonReply 200 v, s)

/-- Answer a login. -/
def login (s : Script) : Reply × Script :=
  match s.logins with
  | [] => s.usualLogin
  | next :: rest =>
    let s' := { s with logins := rest }
    match next with
    | some reply => (reply, s')
    | none => s'.usualLogin

/-- Answer a request. -/
def handle (s : Script) (r : Request) : Reply × Script :=
  let s := { s with received := s.received ++ [r] }
  let path := r.url.decodedPath
  if path = loginPath then s.login
  else
    match Table.get? path s.routes with
    | some (reply :: rest) => (reply, { s with routes := Table.set path rest s.routes })
    | _ => (s.otherwise, s)

/-- The requests that were logins. -/
def loginRequests (s : Script) : List Request :=
  s.received.filter fun r => r.url.decodedPath = loginPath

/-- The requests that were no logins. -/
def gatewayRequests (s : Script) : List Request :=
  s.received.filter fun r => r.url.decodedPath ≠ loginPath

end Script

end RateIsolation
