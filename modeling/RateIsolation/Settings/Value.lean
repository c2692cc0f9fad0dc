/-
  Reading the values of settings.

  A value comes as text, from the environment, or typed, from an override.
  Whole numbers and numbers are read leniently: blanks around them, a plus
  sign, single underscores and, for whole numbers, zeros after a point are
  accepted, truth values count as one and zero, and a number without a
  fraction is a whole number.

  * `ValueFault` says why a value was refused;
  * `Value.readText`, `readOptionalText`, `readWhole` and `readNumber` are the
    four kinds of settings.
-/
import RateIsolation.Json.Basic
import RateIsolation.Text.CharClass

namespace RateIsolation

/-- Why a value was refused. -/
inductive ValueFault where
  | notText
  | notWhole
  | wholeUnreadable
  | wholeFraction
  | wholeTooLarge
  | notFinite
  | notNumber
  | numberUnreadable
  /-- A rule of the setting, in words. -/
  | rule (text : String)
deriving DecidableEq, Repr

namespace ValueFault

/-- The kind of a fault. -/
def kind : ValueFault → String
  | notText => "string_type"
  | notWhole => "int_type"
  | wholeUnreadable => "int_parsing"
  | wholeFraction => "int_from_float"
  | wholeTooLarge => "int_parsing_size"
  | notFinite => "finite_number"
  | notNumber => "float_type"
  | numberUnreadable => "float_parsing"
  | rule _ => "value_error"

/-- The words for a fault. -/
def message : ValueFault → String
  | notText => "Input should be a valid string"
  | notWhole => "Input should be a valid integer"
  | wholeUnreadable => "Input should be a valid integer, unable to parse string as an integer"
  | wholeFraction => "Input should be a valid integer, got a number with a fractional part"
  | wholeTooLarge => "Unable to parse input string as an integer, exceeded maximum size"
  | notFinite => "Input should be a finite number"
  | notNumber => "Input should be a valid number"
  | numberUnreadable => "Input should be a valid number, unable to parse string as a number"
  | rule text => "Value error, " ++ text

end ValueFault

namespace Value

/-- Whether two underscores follow each other. -/
def hasDoubleUnderscore : List Char → Bool
  | '_' :: '_' :: _ => true
  | _ :: rest => hasDoubleUnderscore rest
  | [] => false

/-- The characters without underscores, which must be single and inside. -/
def withoutUnderscores? (cs : List Char) : Option (List Char) :=
  if cs.contains '_' && cs.head? != some '_' && cs.getLast? != some '_' &&
      !hasDoubleUnderscore cs then
    some (cs.filter (· != '_'))
  else none

/-- The digits of a text, if it holds nothing else. -/
def digits? (cs : List Char) : Option (List Nat) :=
  if cs.isEmpty then none else cs.mapM Text.asciiDigit?

/-- The number that digits write. -/
def ofDigits (ds : List Nat) : Nat := ds.foldl (fun n d => n * 10 + d) 0

/-- The greatest length of the text of a whole number. -/
def maxWholeLength : Nat := 4300

/-- Whether a character is a digit from `0` to `9`. -/
def isDigit (c : Char) : Bool := (Text.asciiDigit? c).isSome

/-- A whole number in its strict form: an optional minus sign, and digits of which the first is a
    zero only in zero itself. Too many digits are noticed before anything after them. -/
def strictWhole (cs : List Char) : Except ValueFault Int :=
  let (negative, unsigned) : Bool × List Char := match cs with
    | '-' :: rest => (true, rest)
    | rest => (false, rest)
  let run := unsigned.takeWhile isDigit
  let sign := if negative then 1 else 0
  if run.head? = some '0' then
    if unsigned.length = 1 then .ok 0 else .error .wholeUnreadable
  else if maxWholeLength < sign + run.length then .error .wholeTooLarge
  else
    match digits? unsigned with
    | none => .error .wholeUnreadable
    | some ds => .ok (if negative then -(ofDigits ds : Int) else ofDigits ds)

/-- What is left of zeros at the start, with single underscores among them, after the first: one
    zero if a point or nothing follows. -/
def afterZeros : List Char → Option (List Char)
  | [] => some ['0']
  | '.' :: rest => some ('0' :: '.' :: rest)
  | '0' :: rest => afterZeros rest
  | '_' :: '0' :: rest => afterZeros rest
  | '_' :: c :: rest => if isDigit c then some (c :: rest) else none
  | c :: rest => if isDigit c then some (c :: rest) else none

/-- The characters without zeros at the start; they have to start with a digit or a minus. -/
def withoutLeadingZeros? : List Char → Option (List Char)
  | '0' :: rest => afterZeros rest
  | c :: rest => if isDigit c || c == '-' then some (c :: rest) else none
  | [] => none

/-- The characters before a point that zeros, and only zeros, follow. -/
def withoutZeroFraction (cs : List Char) : List Char :=
  let whole := cs.takeWhile (· != '.')
  match cs.drop (whole.length + 1) with
  | [] => cs
  | zeros => if zeros.all (· == '0') then whole else cs

/-- The strict form of what was written leniently: with white space around it, a plus sign, zeros
    at the start, a fraction of zeros, or single underscores. -/
def tidyWhole? (cs : List Char) : Option (List Char) :=
  let unsigned? : Option (List Char) := match Text.trimSpaceList cs with
    | '+' :: '-' :: _ => none
    | '+' :: rest => some rest
    | rest => some rest
  (unsigned?.bind withoutLeadingZeros?).map fun digits =>
    let whole := withoutZeroFraction digits
    (withoutUnderscores? whole).getD whole

/-- A whole number from text. -/
def wholeOfText (s : String) : Except ValueFault Int :=
  match strictWhole s.toList with
  | .error .wholeUnreadable =>
    match tidyWhole? s.toList with
    | none => .error .wholeUnreadable
    | some cs => strictWhole cs
  | result => result

/-- A whole number from a binary number, which must have no fraction. -/
def wholeOfNumber (x : Binary64) : Except ValueFault Int :=
  match x with
  | .finite _ _ =>
    match x.toInt? with
    | none => .error .wholeFraction
    | some n => if n.natAbs < Nat.pow 2 63 then .ok n else .error .wholeTooLarge
  | _ => .error .notFinite

/-- Digits, a point and digits; at least one digit in all. -/
def decimalParts? (cs : List Char) : Option (List Nat × List Nat) :=
  let whole := cs.takeWhile (· != '.')
  let fraction := cs.drop (whole.length + 1)
  match whole.mapM Text.asciiDigit?, fraction.mapM Text.asciiDigit? with
  | some w, some f => if w.isEmpty && f.isEmpty then none else some (w, f)
  | _, _ => none

/-- An exponent after its letter. -/
def exponent? (cs : List Char) : Option Int :=
  let (negative, unsigned) : Bool × List Char := match cs with
    | '-' :: rest => (true, rest)
    | '+' :: rest => (false, rest)
    | rest => (false, rest)
  (digits? unsigned).map fun ds => if negative then -(ofDigits ds : Int) else ofDigits ds

/-- A number without a sign. -/
def unsignedNumber? (negative : Bool) (cs : List Char) : Option Binary64 :=
  let lower := cs.map Char.toLower
  if lower == "inf".toList || lower == "infinity".toList then some (.infinite negative)
  else if lower == "nan".toList then some .nan
  else
    let mantissa := lower.takeWhile (· != 'e')
    let scale? : Option Int := match lower.drop mantissa.length with
      | [] => some 0
      | _ :: rest => exponent? rest
    match decimalParts? mantissa, scale? with
    | some (w, f), some e =>
      some (.ofDecimal negative (ofDigits (w ++ f)) (e - (f.length : Int)))
    | _, _ => none

/-- A number with an optional sign. -/
def number? (cs : List Char) : Option Binary64 :=
  match cs with
  | '-' :: rest => unsignedNumber? true rest
  | '+' :: rest => unsignedNumber? false rest
  | rest => unsignedNumber? false rest

/-- A number from text. -/
def numberOfText (s : String) : Except ValueFault Binary64 :=
  match number? (Text.trimSpaceList s.toList) with
  | some x => .ok x
  | none =>
    match (withoutUnderscores? s.toList).bind number? with
    | some x => .ok x
    | none => .error .numberUnreadable

/-! ## The kinds of settings -/

/-- A text. -/
def readText : Json → Except ValueFault String
  | .str (.plain s) => .ok s
  | _ => .error .notText

/-- A text, or nothing. -/
def readOptionalText : Json → Except ValueFault (Option String)
  | .null => .ok none
  | v => (readText v).map some

/-- A whole number. -/
def readWhole : Json → Except ValueFault Int
  | .int n => .ok n
  | .bool b => .ok (if b then 1 else 0)
  | .float x => wholeOfNumber x
  | .str (.plain s) => wholeOfText s
  | _ => .error .notWhole

/-- A number. -/
def readNumber : Json → Except ValueFault Binary64
  | .float x => .ok x
  | .int n => (Binary64.ofInt? n).elim (.error .notNumber) .ok
  | .bool b => .ok (.ofRatio false (if b then 1 else 0) 1)
  | .str (.plain s) => numberOfText s
  | _ => .error .notNumber

end Value

end RateIsolation
