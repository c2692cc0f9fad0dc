/-
  The state of the harness and the actions on it.

  * `Session` holds the outside, the metrics, the log and its context, what was
    printed, and the connections that the harness opened itself;
  * `Harness` is an action: it may fail with a `Fault`, and what it did before
    stays done;
  * `Fault` is whatever ends an action early: a failure that the harness
    reports, or one that it lets pass.
-/
import RateIsolation.Error
import RateIsolation.Metrics.Basic
import RateIsolation.Text.Base64
import RateIsolation.World

namespace RateIsolation

/-- A header value that cannot be sent: its first run of characters outside ASCII. -/
structure HeaderFault where
  /-- The first such character. -/
  first : Char
  /-- Its position. -/
  start : Nat
  /-- How many follow each other. -/
  count : Nat
deriving DecidableEq, Repr

/-- What ends an action early. -/
inductive Fault where
  /-- A failure that the harness reports. -/
  | harness (e : HarnessError)
  /-- An address that cannot be read. -/
  | url (f : UrlFault)
  /-- A header value outside ASCII. -/
  | header (f : HeaderFault)
  /-- A request without an answer that is no failure of the transport. -/
  | send (f : SendFault)
  /-- A body that was to be reported and has no text. -/
  | decoding (f : DecodeFault)
  /-- A body with more levels than can be read. -/
  | nesting (bracket : Json.Bracket)
  /-- A time that is too long for a number of seconds. -/
  | secondsOverflow
  /-- A sleep that failed. -/
  | sleep (f : SleepFault)
  /-- A file that could not be written. -/
  | file (f : FileFault)

/-- Where a log goes: records and plain notices, in order. -/
inductive LogEntry where
  | record (fields : Fields)
  | notice (text : String)

/-- The state of the harness. -/
structure Session (σ : Type) where
  /-- The outside. -/
  world : σ
  context : LogContext := {}
  logging : LogSettings := {}
  /-- What was written to the log. -/
  entries : List LogEntry := []
  /-- What was printed. -/
  printed : String := ""
  metrics : Option Metrics := none
  /-- The timeouts of the connections that the harness opened itself. -/
  opened : List Seconds := []

/-- An action of the harness. -/
abbrev Harness (σ : Type) := ExceptT Fault (StateM (Session σ))

namespace Harness

variable {σ : Type}

/-- Write a record if its logger writes that severity. -/
def log (logger : String) (severity : Severity) (event : String)
    (fields : List (String × Json)) : Harness σ Unit :=
  modify fun s =>
    if s.logging.enabled logger severity then
      { s with entries := s.entries ++
          [.record (logRecord s.logging.stamp s.context logger severity event fields)] }
    else s

/-- Write a notice. -/
def notice (text : String) : Harness σ Unit :=
  modify fun s => { s with entries := s.entries ++ [.notice text] }

/-- Print a text. -/
def print (text : String) : Harness σ Unit :=
  modify fun s => { s with printed := s.printed ++ text }

/-- Set the phase of the log's context. -/
def setPhase (phase : Option String) : Harness σ Unit :=
  modify fun s => { s with context := { s.context with phase := phase } }

/-- Set the run of the log's context. -/
def setRunId (runId : String) : Harness σ Unit :=
  modify fun s => { s with context := { s.context with runId := some runId } }

/-- Unset the log's context. -/
def clearContext : Harness σ Unit := modify fun s => { s with context := {} }

/-- Write a metric, if there are metrics. -/
def record (call : Recording) : Harness σ Unit :=
  modify fun s => { s with metrics := s.metrics.map (Metrics.record · call) }

/-- Note a connection that the harness opens itself. -/
def openConnection (timeout : Seconds) : Harness σ Unit :=
  modify fun s => { s with opened := s.opened ++ [timeout] }

/-- Ask the outside, and keep its new state. -/
def ask {α : Type} (f : σ → α × σ) : Harness σ α :=
  modifyGet fun s => let (a, w) := f s.world; (a, { s with world := w })

/-- An action that a known result stands for. -/
def ofExcept {ε α : Type} (fault : ε → Fault) : Except ε α → Harness σ α
  | .ok a => pure a
  | .error e => throw (fault e)

/-- Read the clock. -/
def readClock (w : World σ) : Harness σ Int := ask w.readClock

/-- A new id. -/
def newId (w : World σ) : Harness σ String := ask w.newId

/-- Sleep for a time. -/
def sleep (w : World σ) (time : Seconds) : Harness σ Unit := do
  ofExcept .sleep (← ask (w.sleep time))

/-- Write a note of a gateway inside the process. -/
def writeNote (n : LogNote) : Harness σ Unit := log n.logger n.severity n.event n.fields

/-- Send a request. -/
def send (w : World σ) (request : Request) : Harness σ Reply := do
  let exchange ← ask (w.send request)
  exchange.notes.forM writeNote
  return exchange.reply

/-- Write a file in place. -/
def writeFile (w : World σ) (path content : String) : Harness σ Unit := do
  ofExcept .file (← ask (w.writeFile path content))

/-- Write a file beside and put it in place. -/
def replaceFile (w : World σ) (path content : String) : Harness σ Unit := do
  ofExcept .file (← ask (w.replaceFile path content))

/-- Set the run of the log's context to a given id or to a new one. -/
def beginRun (w : World σ) (runId : Option String) : Harness σ String := do
  let id ← match runId with
    | some id => pure id
    | none => newId w
  setRunId id
  return id

/-- Do `after` on every way out of `action`. -/
def ensuring {α : Type} (action : Harness σ α) (after : Harness σ Unit) : Harness σ α := do
  let result ← (ExceptT.lift action.run : Harness σ (Except Fault α))
  after
  match result with
  | .ok a => return a
  | .error f => throw f

end Harness

/-! ## Building requests -/

/-- The first run of characters outside ASCII. -/
def headerFault? (value : String) : Option HeaderFault :=
  let cs := value.toList
  let before := cs.takeWhile (·.toNat < 128)
  let run := (cs.drop before.length).takeWhile fun c => !(c.toNat < 128)
  run.head?.map fun c => ⟨c, before.length, run.length⟩

/-- The authorization that a request carries: the user of the address comes first. -/
def authorizationFor (url : Url) (given : Option String) : Option String :=
  match url.login? with
  | some (user, password) => some ("Basic " ++ Text.base64 (utf8Bytes (user ++ ":" ++ password)))
  | none => given

end RateIsolation
