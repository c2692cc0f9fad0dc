/-
  The program: the command against a gateway inside the process.

  The clock starts at the system's and then moves only by sleeping, so a run
  ends at once; files that the command writes are put into the working
  directory.
-/
import RateIsolation.Command.Run
import RateIsolation.Gateway.Simulation

namespace RateIsolation.Program

/-- The environment as names and values. -/
def readEnvironment : IO (List (String × String)) := do
  let text ← try IO.FS.readFile "/proc/self/environ" catch _ => pure ""
  return (text.splitOn "\x00").filterMap fun entry =>
    match entry.splitOn "=" with
    | name :: value :: rest => some (name, "=".intercalate (value :: rest))
    | _ => none

/-- The text of the settings file, if there is one. -/
def readSettingsFile : IO (Option String) := do
  try
    return some (← IO.FS.readFile ".env")
  catch _ => return none

/-- The line of a log entry. -/
def lineOf : LogEntry → String
  | .record fields => (Json.record fields).render Json.spaced
  | .notice text => text

end RateIsolation.Program

open RateIsolation Program

/-- Run the command and write what it wrote; a fault that it lets pass gives the fatal status. -/
def main (args : List String) : IO UInt32 := do
  let surroundings : Surroundings :=
    { environment := ← readEnvironment, settingsFile := ← readSettingsFile }
  let start ← IO.monoMsNow
  let outside : Simulation := { now := start, gateway := .server {} }
  let (result, session) :=
    ((Command.run Simulation.world surroundings args).run.run { world := outside }).run
  for entry in session.entries do
    IO.eprintln (lineOf entry)
  IO.print session.printed
  for (name, content) in session.world.files do
    IO.FS.writeFile name content
  match result with
  | .ok (.stopped status) => return status.toNat.toUInt32
  | .ok (.finished status) => return status.toNat.toUInt32
  | .error _ => return exitFatal.toNat.toUInt32
