/-
  Log records and the context they carry.

  A record is a table of named values in insertion order: the caller's
  fields, then the event, the logger, the level and the time, then the
  service, the run and the phase. A name that is present keeps its place and
  takes the new value, so a caller cannot hide the run behind a field of
  its own.

  * `Fields.withService` and `Fields.withContext` add the last three;
  * `Severity` and `LogSettings.enabled` decide which records are written;
  * `LogSettings.ofNames` reads the settings, with the level by name.
-/
import RateIsolation.Json.Basic
import RateIsolation.Text.UpperCase

namespace RateIsolation

/-- Named values in insertion order. -/
abbrev Fields := Table String Json

/-- What every record of a run is tagged with. -/
structure LogContext where
  /-- The run, if one is set. -/
  runId : Option String := none
  /-- The phase of the scenario, if one is set. -/
  phase : Option String := none
deriving DecidableEq, Repr

/-- Write a text unless it is missing or empty. -/
def Fields.setNonempty (name : String) (value : Option String) (fields : Fields) : Fields :=
  match value with
  | none => fields
  | some v => if v.isEmpty then fields else Table.set name (.text v) fields

/-- The text before the first dot, if there is a dot. -/
def beforeDot (s : WideText) : Option WideText :=
  if s.points.contains (.char '.') then some (.ofPoints (s.points.takeWhile (· != .char '.')))
  else none

/-- The name of the logger in a record, empty if there is none. -/
def Fields.logger (fields : Fields) : WideText :=
  match Table.get? "logger" fields with
  | some (.str s) => s
  | _ => .plain ""

/-- Add the service: the logger's name up to its first dot, if it has one. -/
def Fields.withService (fields : Fields) : Fields :=
  match beforeDot fields.logger with
  | none => fields
  | some service => Table.set "service" (.str service) fields

/-- Add the run and the phase of the context. -/
def Fields.withContext (context : LogContext) (fields : Fields) : Fields :=
  (fields.setNonempty "run_id" context.runId).setNonempty "phase" context.phase

/-! ## Levels -/

/-- How severe a record is. -/
inductive Severity where
  | debug
  | info
  | warning
  | error
  | critical
deriving DecidableEq, Repr

namespace Severity

/-- The name in a record. -/
def name : Severity → String
  | debug => "debug"
  | info => "info"
  | warning => "warning"
  | error => "error"
  | critical => "critical"

/-- The rank among the levels. -/
def rank : Severity → Nat
  | debug => 10
  | info => 20
  | warning => 30
  | error => 40
  | critical => 50

end Severity

/-- Ranks by the names of levels in upper case. -/
def levelRanks : List (String × Nat) := [("DEBUG", 10), ("INFO", 20), ("WARNING", 30),
  ("WARN", 30), ("ERROR", 40), ("CRITICAL", 50), ("FATAL", 50), ("NOTSET", 0)]

/-- Why a level was refused. -/
inductive LevelFault where
  /-- No level and nothing else has that name, here in upper case. -/
  | unknown (name : String)
  /-- The name is that of the usual record format, which is no level. -/
  | format
deriving DecidableEq, Repr

/-- The rank of a level by its name in any case. -/
def levelRank (name : String) : Except LevelFault Nat :=
  let upper := Text.toUpper name
  match Table.get? upper levelRanks with
  | some rank => .ok rank
  | none => .error (if upper = "BASIC_FORMAT" then .format else .unknown upper)

/-- Which records are written, and the text for their time. -/
structure LogSettings where
  /-- The service whose loggers are set to the level. -/
  service : String := "ratecheck"
  /-- The least rank that is written. -/
  rank : Nat := 20
  /-- The time of the records. -/
  stamp : String := "T"
deriving DecidableEq, Repr

namespace LogSettings

/-- The transport's loggers, which would drown the others. -/
def quietLogger : String := "httpx"

/-- Settings for a service and the name of a level. -/
def ofNames (service level : String) : Except LevelFault LogSettings :=
  match levelRank level with
  | .ok rank => .ok { service := service, rank := rank }
  | .error e => .error e

/-- The name of the logger above, if there is one below the root. -/
def parent? (logger : List Char) : Option (List Char) :=
  match (logger.reverse.dropWhile (· != '.')) with
  | [] => none
  | _ :: above => some above.reverse

/-- The rank set for a logger itself; zero sets none. -/
def ownRank (s : LogSettings) (logger : String) : Nat :=
  if logger = quietLogger then Severity.warning.rank
  else if logger = s.service then s.rank
  else 0

/-- The rank from which on a logger writes: its own, or that of the first logger above with one. -/
def threshold (s : LogSettings) : Nat → List Char → Nat
  | 0, _ => s.rank
  | steps + 1, logger =>
    let own := s.ownRank (String.ofList logger)
    if own ≠ 0 then own
    else match parent? logger with
      | none => s.rank
      | some above => s.threshold steps above

/-- Whether a logger writes records of a severity. -/
def enabled (s : LogSettings) (logger : String) (severity : Severity) : Bool :=
  decide (s.threshold (logger.length + 1) logger.toList ≤ severity.rank)

end LogSettings

/-- The name that a logger has in its records; the root is named so. -/
def loggerName (logger : String) : String := if logger.isEmpty then "root" else logger

/-- The record of a call. -/
def logRecord (stamp : String) (context : LogContext) (logger : String) (severity : Severity)
    (event : String) (fields : List (String × Json)) : Fields :=
  let written := Table.ofList (fields ++ [("event", .text event), ("logger", .text (loggerName logger)),
    ("level", .text severity.name), ("timestamp", .text stamp)])
  (Fields.withService written).withContext context

end RateIsolation
