/-
  Everything outside the program: the clock, sleeping, new ids, the network
  and files.

  A `World` over a state type answers each of them and moves its state, so it
  may behave in any way that depends on what came before. `World.recording`
  keeps a list of the requests that reached the transport with their replies,
  and of the sleeps.
-/
import RateIsolation.Http.Message
import RateIsolation.Log.Record

namespace RateIsolation

/-- Why a sleep failed. -/
inductive SleepFault where
  /-- The time was infinite. -/
  | infinite
  /-- The time was not a number. -/
  | notANumber
deriving DecidableEq, Repr

/-- Why a file could not be written. -/
inductive FileFault where
  | noSuchFile
  | notADirectory
  | isADirectory
  | busy
  | nameTooLong
  | nullInName
deriving DecidableEq, Repr

/-- Something that a gateway inside the process writes to the log. -/
structure LogNote where
  logger : String
  severity : Severity
  event : String
  fields : List (String × Json)
deriving Repr

/-- What comes of a request, and what was logged on the way. -/
structure Exchange where
  reply : Reply
  notes : List LogNote := []

/-- The answers of the outside. -/
structure World (σ : Type) where
  /-- The clock in milliseconds. -/
  readClock : σ → Int × σ
  /-- Sleep for a time. -/
  sleep : Seconds → σ → Except SleepFault Unit × σ
  /-- A new id. -/
  newId : σ → String × σ
  /-- Send a request; its reply is what the client gives back. -/
  send : Request → σ → Exchange × σ
  /-- Write a file in place. -/
  writeFile : String → String → σ → Except FileFault Unit × σ
  /-- Write a file beside and put it in place. -/
  replaceFile : String → String → σ → Except FileFault Unit × σ

/-- What a run did to the outside. -/
inductive WorldEvent where
  /-- A request reached the transport, with its reply. -/
  | sent (request : Request) (reply : Reply)
  /-- A sleep was begun. -/
  | slept (time : Seconds)
  /-- The clock was read. -/
  | readClock (now : Int)

namespace World

/-- The same world, with a list of what was done to it. -/
def recording {σ : Type} (w : World σ) : World (σ × List WorldEvent) where
  readClock := fun (s, events) =>
    let (now, s') := w.readClock s
    (now, (s', events ++ [.readClock now]))
  sleep := fun time (s, events) =>
    let (result, s') := w.sleep time s
    (result, (s', events ++ [.slept time]))
  newId := fun (s, events) => let (id, s') := w.newId s; (id, (s', events))
  send := fun request (s, events) =>
    let (exchange, s') := w.send request s
    (exchange, (s', events ++ [.sent request exchange.reply]))
  writeFile := fun path content (s, events) =>
    let (result, s') := w.writeFile path content s
    (result, (s', events))
  replaceFile := fun path content (s, events) =>
    let (result, s') := w.replaceFile path content s
    (result, (s', events))

end World

/-- The requests among events. -/
def WorldEvent.requests (events : List WorldEvent) : List Request :=
  events.filterMap fun
    | .sent request _ => some request
    | _ => none

end RateIsolation
