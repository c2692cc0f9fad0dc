/-
  The text of refused settings.

  A line counts the faults; each fault has a line with its key, one with its
  words, kind and value, and one that points to more about the kind. A value
  of more than fifty characters is shortened in the middle.
-/
import RateIsolation.Describe
import RateIsolation.Json.Printer
import RateIsolation.Settings.Basic

namespace RateIsolation.SettingFault

/-- The first and last characters of a long text around dots. -/
def shorten (s : String) : String :=
  let cs := s.toList
  if cs.length ≤ 50 then s
  else String.ofList (cs.take 25) ++ "..." ++ String.ofList (cs.drop (cs.length - 24))

/-- The text of a value of a command or the environment, and the name of its type. -/
def describeValue : Json → String × String
  | .str (.plain s) => (Text.quoted s, "str")
  | .int n => (Describe.int n, "int")
  | .bool b => (Describe.bool b, "bool")
  | .null => ("None", "NoneType")
  | v => (v.render Json.spaced, "object")

/-- The lines of one fault. -/
def lines (f : SettingFault) : List String :=
  let (text, type) := describeValue f.value
  [f.key,
    "  " ++ f.fault.message ++ " [type=" ++ f.fault.kind ++ ", input_value=" ++ shorten text ++
      ", input_type=" ++ type ++ "]",
    "    For further information visit https://errors.pydantic.dev/2.14/v/" ++ f.fault.kind]

/-- The lines of all faults. -/
def report (faults : List SettingFault) : List String :=
  let count := faults.length
  let noun := if count = 1 then " validation error for " else " validation errors for "
  (toString count ++ noun ++ "HarnessConfig") :: faults.flatMap lines

end RateIsolation.SettingFault
