/-
  Failures that the harness reports.

  Each has a code, a message and details. `HarnessError` is the form in which
  all of them are reported; the causes that arise in a run are `LoginFailure`
  and `ParameterFault`, and `error` gives the form of each.

  * `HarnessError.response` is the payload of a report;
  * `HarnessError.isAuthentication` holds for a missing field too.
-/
import RateIsolation.Json.Basic

namespace RateIsolation

/-- A failure of the harness. -/
inductive HarnessError where
  /-- A failure with a code of its own. -/
  | general (code message : String) (details : Json)
  /-- A login gave no usable credential. -/
  | authentication (message : String) (details : Json)
  /-- A body does not have the expected shape. -/
  | missingField (field message : String) (details : Json)
  /-- A parameter of the harness is invalid. -/
  | validation (message : String) (details : Json)
  /-- Checks that failed, with the summary of the run. -/
  | checksFailed (failed : List String) (summary : Json)
deriving Repr

namespace HarnessError

/-- No details. -/
def noDetails : Json := .obj []

/-- The code of a failure. -/
def code : HarnessError → String
  | general code _ _ => code
  | authentication _ _ => "AUTHENTICATION_ERROR"
  | missingField _ _ _ => "MISSING_FIELD_ERROR"
  | validation _ _ => "VALIDATION_ERROR"
  | checksFailed _ _ => "ASSERTION_FAILURE"

/-- The message of a failure. -/
def message : HarnessError → String
  | general _ message _ => message
  | authentication message _ => message
  | missingField _ message _ => message
  | validation message _ => message
  | checksFailed failed _ => "rate-limit assertions failed: " ++ "; ".intercalate failed

/-- The details of a failure. -/
def details : HarnessError → Json
  | general _ _ details => details
  | authentication _ details => details
  | missingField _ _ details => details
  | validation _ details => details
  | checksFailed failed summary =>
    .record [("failed", .texts failed), ("summary", summary)]

/-- Whether the failure is one of a login. -/
def isAuthentication : HarnessError → Bool
  | authentication _ _ => true
  | missingField _ _ _ => true
  | _ => false

/-- A missing field with the usual message unless another is given. -/
def missing (field : String) (message : Option String) (details : Json) : HarnessError :=
  let usual := "Response is missing field '" ++ field ++ "'"
  .missingField field
    (match message with
    | none => usual
    | some m => if m.isEmpty then usual else m)
    details

/-- The payload of a report. -/
def response (e : HarnessError) (runId : Option String) : List (String × Json) :=
  [("run_id", .ofOption .text runId), ("code", .text e.code), ("message", .text e.message),
    ("details", e.details)]

end HarnessError

/-- A parameter that a run cannot work with. -/
inductive ParameterFault where
  /-- A burst of less than one request. -/
  | burstTooSmall (count : Int)
  /-- A window that is not longer than nothing. -/
  | windowNotPositive (window : Int)
  /-- A margin below zero. -/
  | marginNegative (margin : Int)
deriving DecidableEq, Repr

/-- The report of a parameter fault. -/
def ParameterFault.error : ParameterFault → HarnessError
  | burstTooSmall count =>
    .validation "burst count must be at least 1" (.record [("count", .int count)])
  | windowNotPositive window =>
    .validation "window length must be positive" (.record [("window_ms", .int window)])
  | marginNegative margin =>
    .validation "margin must not be negative" (.record [("margin_ms", .int margin)])

end RateIsolation
