/-
  Reading whole numbers from text typed by people.

  White space around the number is ignored; the digits may be those of any
  script, with single underscores between them, after an optional sign; at
  most 4300 digits are read.
-/
import RateIsolation.Text.CharClass

namespace RateIsolation

/-- Digits with single underscores between them, given how to read a digit. -/
def readDigits (digit? : Char → Option Nat) : List Char → Option (List Nat)
  | [] => none
  | [c] => (digit? c).map ([·])
  | c :: '_' :: rest =>
    match digit? c, readDigits digit? rest with
    | some d, some ds => some (d :: ds)
    | _, _ => none
  | c :: rest =>
    match digit? c, readDigits digit? rest with
    | some d, some ds => some (d :: ds)
    | _, _ => none

/-- The number that digits write. -/
def digitsValue (ds : List Nat) : Nat := ds.foldl (fun n d => n * 10 + d) 0

/-- Split off a sign: whether it is a minus, and the rest. -/
def splitSign : List Char → Bool × List Char
  | '-' :: rest => (true, rest)
  | '+' :: rest => (false, rest)
  | rest => (false, rest)

/-- The greatest number of digits of a whole number in a text. -/
def maxTextDigits : Nat := 4300

/-- The whole number that a text writes. -/
def readInt? (s : String) : Option Int :=
  let (negative, digits) := splitSign (Text.trimSpaceList s.toList)
  match readDigits Text.digitValue? digits with
  | none => none
  | some ds =>
    if ds.length > maxTextDigits then none
    else some (if negative then -(digitsValue ds : Int) else digitsValue ds)

end RateIsolation
