/-
  Requests, responses, and what can happen to a request.

  * `Seconds` is a time span as it was given: whole or binary;
  * `Reading` is what the place of a response brings to the reading of its
    body; `Response.text` decodes the body by its content type, `Response.json`
    reads it as JSON, and both may fail;
  * `SendFault` is the failure of a request: a failure of the transport, which
    a caller counts as no answer, or one that ends the run;
  * `Reply` is what a client gives back for a request: `Request.receive` is what
    it makes of an answer that names another address.
-/
import RateIsolation.Http.MediaType
import RateIsolation.Http.Url
import RateIsolation.Json.Body
import RateIsolation.Text.Charset

namespace RateIsolation

/-- A number of seconds, whole or binary. -/
inductive Seconds where
  | whole (n : Int)
  | binary (x : Binary64)
deriving DecidableEq, Repr

namespace Seconds

/-- The number as a value. -/
def toJson : Seconds → Json
  | whole n => .int n
  | binary x => .float x

/-- Longer than nothing. -/
def isPositive : Seconds → Bool
  | whole n => decide (0 < n)
  | binary x => x.isPositive

end Seconds

/-- A request that reaches the transport. -/
structure Request where
  method : String
  url : Url
  authorization : Option String
  requestId : Option String
  timeout : Seconds
  body : Option Json
deriving Repr

/-- What is not in an answer and bears on the reading of its body. -/
structure Reading where
  /-- What a decoder of the platform makes of the body, where the content type names an encoding
      that is none of `Charset.all`, or names it in a parameter that is encoded itself; nothing
      where the platform does not know it either. -/
  foreign : Option (Except DecodeFault WideText) := none
  /-- How many levels of a JSON text can be read: the deeper the stack, the fewer. -/
  room : Nat := Json.usualRoom
deriving Repr

/-- An answer. -/
structure Response where
  status : Int
  headers : List (String × String) := []
  body : List UInt8 := []
  reading : Reading := {}
deriving Repr

namespace Response

/-- All values of a header with a comma between each two, if it is there. -/
def header? (r : Response) (name : String) : Option String :=
  match (r.headers.filter fun h => Text.toAsciiLower h.1 == Text.toAsciiLower name).map (·.2) with
  | [] => none
  | values => some (", ".intercalate values)

/-- The encoding that the content type names, if it is a known one. -/
def charset? (r : Response) : Option Charset :=
  ((r.header? "Content-Type").bind MediaType.charset?).bind Charset.ofName?

/-- The body as text: in the encoding that the content type names, else in UTF-8. -/
def text (r : Response) : Except DecodeFault WideText :=
  if r.body.isEmpty then .ok (.plain "")
  else
    match r.charset? with
    | some charset => (charset.decode r.body).map .plain
    | none => r.reading.foreign.getD (.ok (.plain (Decoder.utf8Text r.body)))

/-- The body as JSON, in an encoding that its own bytes tell. -/
def json (r : Response) : Except Json.BodyError Json := Json.ofBytes r.reading.room r.body

end Response

/-- How a transport fails. -/
inductive TransportFailure where
  | http
  | request
  | transport
  | timeout
  | connectTimeout
  | readTimeout
  | writeTimeout
  | poolTimeout
  | network
  | connect
  | read
  | write
  | close
  | protocol
  | localProtocol
  | remoteProtocol
  | unsupportedProtocol
  | proxy
  | decoding
  | tooManyRedirects
  | httpStatus
deriving DecidableEq, Repr

namespace TransportFailure

/-- All kinds with the names under which they are reported. -/
def names : List (TransportFailure × String) := [
  (http, "HTTPError"), (request, "RequestError"), (transport, "TransportError"),
  (timeout, "TimeoutException"), (connectTimeout, "ConnectTimeout"), (readTimeout, "ReadTimeout"),
  (writeTimeout, "WriteTimeout"), (poolTimeout, "PoolTimeout"), (network, "NetworkError"),
  (connect, "ConnectError"), (read, "ReadError"), (write, "WriteError"), (close, "CloseError"),
  (protocol, "ProtocolError"), (localProtocol, "LocalProtocolError"),
  (remoteProtocol, "RemoteProtocolError"), (unsupportedProtocol, "UnsupportedProtocol"),
  (proxy, "ProxyError"), (decoding, "DecodingError"), (tooManyRedirects, "TooManyRedirects"),
  (httpStatus, "HTTPStatusError")]

/-- The name under which a failure is reported. -/
def name (f : TransportFailure) : String := (Table.get? f names).getD "HTTPError"

/-- The failure of a name. -/
def ofName? (name : String) : Option TransportFailure :=
  (names.find? fun e => e.2 == name).map (·.1)

end TransportFailure

/-- A fault inside the gateway itself. -/
inductive ServerFault where
  /-- A window of length zero. -/
  | emptyWindow
  /-- No quota under the name that all routes are counted as. -/
  | missingQuota (route : String)
deriving DecidableEq, Repr

/-- Why a request had no answer. -/
inductive SendFault where
  /-- The transport failed. -/
  | transport (kind : TransportFailure) (message : String)
  /-- The address was refused, that of the request or another that the answer names. -/
  | badAddress (message : String)
  /-- Two cookies of one name. -/
  | cookieConflict (message : String)
  /-- The user interrupted the run. -/
  | interrupted (message : String)
  /-- The gateway itself broke. -/
  | server (fault : ServerFault)
deriving DecidableEq, Repr

/-- What comes of a request, as the client gives it back. -/
abbrev Reply := Except SendFault Response

/-! ## Other addresses -/

/-- The other address that an answer names, if its status asks for one. -/
def Response.location? (r : Response) : Option String :=
  if [301, 302, 303, 307, 308].contains r.status then r.header? "Location" else none

/-- Whether an address has a scheme and no host, and a path that cannot follow a host. -/
def Url.isOpaque (u : Url) : Bool :=
  !u.scheme.isEmpty && u.host.isEmpty && !u.path.isEmpty && !u.path.startsWith "/"

/-- What a client makes of a reply: it asks for no other address, but an answer that names one has to
    name one that could be asked for, under the host of the request if it has none of its own. -/
def Request.receive (request : Request) : Reply → Reply
  | .error fault => .error fault
  | .ok r =>
    match r.location? with
    | none => .ok r
    | some location =>
      match Url.parse location with
      | .error fault =>
        .error (.transport .remoteProtocol
          ("Invalid URL in location header: " ++ fault.message ++ "."))
      | .ok url =>
        if url.isOpaque && !request.url.host.isEmpty then
          .error (.badAddress UrlFault.pathNotRooted.message)
        else .ok r

end RateIsolation
