/-
  A gateway inside the process: logins and rate-limited routes.

  `POST /auth/login` gives a fresh token for a known user name and password,
  so that two logins of one user are two callers. `GET /api/v1/…` needs such
  a token and counts the calls per token, route and window. The pages of
  documentation are there, but without their text.

  * `Server.login` and `Server.resource` are the two services on decoded
    input; they change nothing but the tokens, or the counters and the log of
    limited calls;
  * `Server.handle` is the whole server on a message: matching of the route,
    reading of the body, and the request id on every answer;
  * `Sharing` are the ways in which a limiter may wrongly join callers or
    routes.
-/
import RateIsolation.Gateway.Limiter
import RateIsolation.Http.Message
import RateIsolation.Identity
import RateIsolation.Json.Printer
import RateIsolation.World

namespace RateIsolation

/-- What a limiter joins that it should keep apart. -/
inductive Sharing where
  /-- Nothing. -/
  | none
  /-- All callers count as one. -/
  | callers
  /-- All routes count as one. -/
  | routes
deriving DecidableEq, Repr

/-- One answered call of a limited route. -/
structure ServedCall where
  token : String
  route : String
  status : Int
deriving DecidableEq, Repr

/-- The gateway: its configuration, and what it keeps between requests. -/
structure Server where
  /-- The quota of each limited route. -/
  quotas : Table String Int := [("/api/v1/users", 5), ("/api/v1/orders", 5)]
  /-- The password of each user. -/
  users : Table String String := [("user_all", "123"), ("user_b", "123")]
  /-- The length of a window in milliseconds. -/
  window : Int := 1000
  sharing : Sharing := .none
  /-- The user of each issued token. -/
  tokens : Table String String := []
  counters : Counters := []
  /-- The answered calls of limited routes, in order. -/
  log : List ServedCall := []
deriving DecidableEq, Repr

/-- A message as the server gets it. -/
structure Incoming where
  method : String
  /-- The scheme and the host, as they precede the path. -/
  origin : String
  /-- The decoded path. -/
  path : String
  query : Option String := none
  headers : List (String × String) := []
  body : List UInt8 := []
deriving Repr

/-- The first value of a header. -/
def Incoming.header? (m : Incoming) (name : String) : Option String :=
  (m.headers.find? fun h => Text.toAsciiLower h.1 == Text.toAsciiLower name).map (·.2)

namespace Server

/-- The name that joined callers or routes are counted under. -/
def joined : String := "*"

/-- The logger of the gateway. -/
def logger : String := "mock.gateway"

/-! ## The services -/

/-- A token for a user name and password, if they match; `token` is the one to issue. -/
def login (s : Server) (username password token : String) : Option String × Server :=
  if Table.get? username s.users = some password then
    (some token, { s with tokens := Table.set token username s.tokens })
  else (none, s)

/-- The token of an authorization header, if it was issued. -/
def bearerToken (s : Server) (authorization : Option String) : Option String :=
  match authorization with
  | none => none
  | some a =>
    if "Bearer ".toList.isPrefixOf a.toList then
      let token := String.ofList (a.toList.drop 7)
      if Table.has token s.tokens then some token else none
    else none

/-- The counter of a call. -/
def counterKey (s : Server) (token route : String) (now : Int) : CounterKey where
  token := if s.sharing = .callers then joined else token
  route := if s.sharing = .routes then joined else route
  window := windowOf s.window now

/-- The route under whose quota a call is counted. -/
def quotaRoute (s : Server) (route : String) : String :=
  if s.sharing = .routes then joined else route

/-- Count a call and compare with the quota. -/
def allow (s : Server) (token route : String) (now : Int) : Except ServerFault Bool × Server :=
  if s.window = 0 then (.error .emptyWindow, s)
  else
    let (count, counters) := Limiter.hit (s.counterKey token route now) s.counters
    let s' := { s with counters := counters }
    match Table.get? (s.quotaRoute route) s.quotas with
    | none => (.error (.missingQuota (s.quotaRoute route)), s')
    | some quota => (.ok (Limiter.within quota count), s')

/-- What a call of a resource comes to. -/
inductive ResourceAnswer where
  /-- The route is not a limited one. -/
  | notFound
  /-- The call carries no issued token. -/
  | unauthorized
  /-- The call is over the quota. -/
  | limited
  /-- The call is served. -/
  | served
deriving DecidableEq, Repr

/-- Answer a call of a resource. -/
def resource (s : Server) (route : String) (authorization : Option String) (now : Int) :
    Except ServerFault ResourceAnswer × Server :=
  if !Table.has route s.quotas then (.ok .notFound, s)
  else
    match s.bearerToken authorization with
    | none => (.ok .unauthorized, s)
    | some token =>
      match s.allow token route now with
      | (.error fault, s') => (.error fault, s')
      | (.ok false, s') => (.ok .limited, { s' with log := s'.log ++ [⟨token, route, 429⟩] })
      | (.ok true, s') => (.ok .served, { s' with log := s'.log ++ [⟨token, route, 200⟩] })

/-- The statuses answered to a token on a route, in order. -/
def statuses (s : Server) (token route : String) : List Int :=
  (s.log.filter fun c => c.token = token ∧ c.route = route).map ServedCall.status

/-! ## Answers -/

/-- An answer with a JSON body. -/
def jsonResponse (status : Int) (body : Json) (headers : List (String × String) := []) :
    Response where
  status := status
  headers := ("content-type", "application/json") :: headers
  body := utf8Bytes (body.render Json.compact)

/-- An answer that names what is wrong. -/
def errorResponse (status : Int) (text : String) : Response :=
  jsonResponse status (.record [("error", .text text)])

/-- An answer of the framework that names what is wrong. -/
def detailResponse (status : Int) (text : String) (headers : List (String × String) := []) :
    Response :=
  jsonResponse status (.record [("detail", .text text)]) headers

/-- One fault of a login body. -/
def bodyFault (kind : String) (location : List Json) (message : String) (input : Json)
    (context : List (String × Json)) : Json :=
  .record ([("type", .text kind), ("loc", .arr (.text "body" :: location)), ("msg", .text message),
    ("input", input)] ++ (if context.isEmpty then [] else [("ctx", .record context)]))

/-- The answer to a login body with faults. -/
def invalidBody (faults : List Json) : Response :=
  jsonResponse 422 (.record [("detail", .arr faults)])

/-! ## The body of a login -/

/-- A text member of a login body. -/
def textMember (body : Json) (name : String) : Except Json String :=
  match body.get? name with
  | none => .error (bodyFault "missing" [.text name] "Field required" body [])
  | some (.str (.plain s)) => .ok s
  | some other => .error (bodyFault "string_type" [.text name] "Input should be a valid string" other [])

/-- The user name and password of a decoded body. -/
def loginFields (body : Json) : Except (List Json) (String × String) :=
  match body with
  | .null => .error [bodyFault "missing" [] "Field required" .null []]
  | .obj _ =>
    match textMember body "username", textMember body "password" with
    | .ok username, .ok password => .ok (username, password)
    | .error e, .ok _ => .error [e]
    | .ok _, .error e => .error [e]
    | .error e, .error f => .error [e, f]
  | other => .error [bodyFault "model_attributes_type" []
      "Input should be a valid dictionary or object to extract fields from" other []]

/-- The user name and password of a message, or the answer to one that has none. -/
def readLogin (m : Incoming) : Except Response (String × String) :=
  let decoded : Except Response Json :=
    if m.body.isEmpty then .ok .null
    else if (m.header? "content-type").any MediaType.isJson then
      match Json.ofBytes Json.usualRoom m.body with
      | .ok v => .ok v
      | .error (.invalid (.longInteger _) _) | .error .undecodable | .error (.tooDeep _) =>
        .error (detailResponse 400 "There was an error parsing the body")
      | .error (.invalid fault position) =>
        .error (invalidBody [bodyFault "json_invalid" [.nat position] "JSON decode error" (.obj [])
          [("error", .text fault.message)]])
    else .ok (.text (Decoder.utf8Text m.body))
  match decoded with
  | .error r => .error r
  | .ok body =>
    match loginFields body with
    | .error faults => .error (invalidBody faults)
    | .ok fields => .ok fields

/-! ## Routes -/

/-- The routes of the server. -/
inductive Route where
  /-- A page of documentation, which this server leaves empty. -/
  | documentation
  | login
  /-- A resource of that name. -/
  | resource (name : String)
deriving DecidableEq, Repr

/-- The pages of documentation. -/
def documentationPaths : List String :=
  ["/openapi.json", "/docs", "/docs/oauth2-redirect", "/redoc"]

/-- The path without one line feed at its end, which a match ignores. -/
def withoutLineFeed (path : String) : String :=
  if path.toList.getLast? = some '\n' then String.ofList path.toList.dropLast else path

/-- The route of a path. -/
def routeOf (path : String) : Option Route :=
  let base := "/api/v1/".toList
  if documentationPaths.contains (withoutLineFeed path) then some .documentation
  else if withoutLineFeed path = "/auth/login" then some .login
  else if base.isPrefixOf path.toList then
    let name := path.toList.drop base.length
    if name.isEmpty || name.contains '/' then none else some (.resource (String.ofList name))
  else none

/-- The methods that a route answers. -/
def methodsOf : Route → List String
  | .documentation => ["GET", "HEAD"]
  | .login => ["POST"]
  | .resource _ => ["GET"]

/-- The path with its slash at the end taken away or added. -/
def togglePath (path : String) : String :=
  if path.toList.getLast? = some '/' then stripSlashes path else path ++ "/"

/-- The characters that stay as they are in a location. -/
def locationSafe (c : Char) : Bool := ":/%#?=@[]!$&'()*+,;".toList.contains c

/-- The bytes of a location, escapes made anew. -/
def quoteLocation (s : String) : String :=
  String.ofList (s.toList.flatMap fun c =>
    if Percent.unreserved c || locationSafe c then [c] else Percent.escapeChar c)

/-- The path that quotas are looked up by: an address made of the decoded path is read again, so
    it ends at a question mark or a number sign and holds no tab or line end. -/
def quotaPath (m : Incoming) : String :=
  let kept := m.path.toList.filter fun c => c != '\t' && c != '\n' && c != '\r'
  let path := String.ofList (kept.takeWhile fun c => c != '?' && c != '#')
  -- without a scheme the whole address is read as a path
  if m.origin.toList.head? = some ':' then m.origin ++ path else path

/-- An answer before the request id is put on it, with what is logged and how many ids it took. -/
structure Answer where
  response : Response
  notes : List LogNote := []
  idsUsed : Nat := 0

/-- Answer a message that matched a route and its method; `token` is the next new id. -/
def dispatch (s : Server) (route : Route) (m : Incoming) (now : Int) (token : String) :
    Except ServerFault Answer × Server :=
  match route with
  | .documentation => (.ok { response := { status := 200 } }, s)
  | .login =>
    match readLogin m with
    | .error response => (.ok { response := response }, s)
    | .ok (username, password) =>
      match s.login username password token with
      | (none, s') => (.ok { response := errorResponse 401 "invalid credentials" }, s')
      | (some issued, s') =>
        (.ok {
          response := jsonResponse 200 (.record [("token", .text issued)])
          notes := [⟨logger, .info, "Token issued", [("username", .text username)]⟩]
          idsUsed := 1 }, s')
  | .resource name =>
    let (result, s') := s.resource (quotaPath m) (m.header? "authorization") now
    let answer : Except ServerFault Answer := result.map fun
      | .notFound => { response := errorResponse 404 "route not found" }
      | .unauthorized => { response := errorResponse 401 "unauthorized" }
      | .limited => { response := errorResponse 429 "rate limit exceeded" }
      | .served =>
        { response := jsonResponse 200 (.record [("resource", .text name), ("items", .arr [])]) }
    (answer, s')

/-- Answer a message, before the request id is put on the answer. -/
def answer (s : Server) (m : Incoming) (now : Int) (token : String) :
    Except ServerFault Answer × Server :=
  match routeOf m.path with
  | some route =>
    if (methodsOf route).contains m.method then s.dispatch route m now token
    else
      let allowed := ", ".intercalate (methodsOf route)
      (.ok { response := detailResponse 405 "Method Not Allowed" [("allow", allowed)] }, s)
  | none =>
    if m.path ≠ "/" ∧ (routeOf (togglePath m.path)).isSome then
      let query := match m.query with
        | none => ""
        | some q => if q.isEmpty then "" else "?" ++ q
      let location := quoteLocation (m.origin ++ togglePath m.path ++ query)
      (.ok { response := { status := 307, headers := [("location", location)] } }, s)
    else (.ok { response := detailResponse 404 "Not Found" }, s)

/-- The header with the request id. -/
def requestIdHeader : String := "x-request-id"

/-- Answer a message; `newId` gives the id of a number, the next of which is `next`. -/
def handle (newId : Nat → String) (next : Nat) (s : Server) (m : Incoming) (now : Int) :
    Except ServerFault (Response × List LogNote) × Nat × Server :=
  match s.answer m now (newId next) with
  | (.error fault, s') => (.error fault, next, s')
  | (.ok a, s') =>
    let after := next + a.idsUsed
    let (id, last) := match m.header? requestIdHeader with
      | none => (newId after, after + 1)
      | some given => if given.isEmpty then (newId after, after + 1) else (given, after)
    let body := if m.method = "HEAD" then [] else a.response.body
    let response := { a.response with
      headers := a.response.headers ++ [(requestIdHeader, id)], body := body }
    (.ok (response, a.notes), last, s')

end Server

end RateIsolation
