/-
  The outside as a simulation: a clock that only moves when something sleeps
  on it or a request is under way, ids that are numbered, a gateway inside
  the process, and a working directory.

  * `Simulation` is its state, `Simulation.world` its behaviour, which is
    `Simulation.worldOf` for its own ids and sleeps;
  * a sleep moves the clock by the time in whole milliseconds, a half rounded
    to even, and a request by the latency before it is handled.
-/
import RateIsolation.Gateway.Directory
import RateIsolation.Gateway.Script
import RateIsolation.Gateway.Server

namespace RateIsolation

/-- The gateways that a simulation may hold. -/
inductive SimulatedGateway where
  | script (s : Script)
  | server (s : Server)

/-- The state of a simulated outside. -/
structure Simulation where
  /-- The clock in milliseconds. -/
  now : Int
  /-- The times that were slept, in order. -/
  sleeps : List Seconds := []
  /-- The number of the next id. -/
  nextId : Nat := 1
  /-- The time that a request takes to the gateway. -/
  latency : Int := 0
  gateway : SimulatedGateway
  files : Directory := []

/-- The id of a number: thirty-two hexadecimal digits in five groups. -/
def idText (n : Nat) : String :=
  let ds := Text.hexDigits 32 n
  String.ofList (ds.take 8 ++ '-' :: ((ds.drop 8).take 4 ++ '-' :: ((ds.drop 12).take 4 ++ '-' ::
    ((ds.drop 16).take 4 ++ '-' :: ds.drop 20))))

/-- Seconds in whole milliseconds. -/
def Seconds.millis : Seconds → Except SleepFault Int
  | .whole n => .ok (n * 1000)
  | .binary x =>
    match (x.times 1000).nearestInt? with
    | some ms => .ok ms
    | none => .error (if x = .nan then .notANumber else .infinite)

/-- A request as the server gets it. -/
def Incoming.ofRequest (r : Request) : Incoming where
  method := r.method
  origin := r.url.scheme ++ "://" ++ r.url.hostAndPort
  path := r.url.decodedPath
  query := r.url.query
  headers := (match r.authorization with
    | some a => [("authorization", a)]
    | none => []) ++ (match r.requestId with
    | some id => [("x-request-id", id)]
    | none => []) ++ (match r.body with
    | some _ => [("content-type", "application/json")]
    | none => [])
  body := match r.body with
    | some b => utf8Bytes (b.render Json.compact)
    | none => []

namespace Simulation

/-- Sleep: the time is noted, then the clock moves. -/
def sleep (time : Seconds) (s : Simulation) : Except SleepFault Unit × Simulation :=
  let s := { s with sleeps := s.sleeps ++ [time] }
  match time.millis with
  | .ok ms => (.ok (), { s with now := s.now + ms })
  | .error f => (.error f, s)

/-- Let the gateway answer; `newId` gives the id of a number. -/
def send (newId : Nat → String) (r : Request) (s : Simulation) : Exchange × Simulation :=
  let s := { s with now := s.now + s.latency }
  match s.gateway with
  | .script g =>
    let (reply, g') := g.handle r
    ({ reply := r.receive reply }, { s with gateway := .script g' })
  | .server g =>
    match g.handle newId s.nextId (.ofRequest r) s.now with
    | (.error fault, next, g') =>
      ({ reply := .error (.server fault) }, { s with gateway := .server g', nextId := next })
    | (.ok (response, notes), next, g') =>
      ({ reply := .ok response, notes := notes },
        { s with gateway := .server g', nextId := next })

/-- The behaviour of a simulated outside, given the id of each number and what a sleep does. -/
def worldOf (newId : Nat → String)
    (sleep : Seconds → Simulation → Except SleepFault Unit × Simulation) : World Simulation where
  readClock := fun s => (s.now, s)
  sleep := sleep
  newId := fun s => (newId s.nextId, { s with nextId := s.nextId + 1 })
  send := send newId
  writeFile := fun path content s =>
    let (result, files) := s.files.write path content
    (result, { s with files := files })
  replaceFile := fun path content s =>
    let (result, files) := s.files.replace path content
    (result, { s with files := files })

/-- The behaviour of a simulated outside. -/
def world : World Simulation := worldOf idText sleep

end Simulation

end RateIsolation
