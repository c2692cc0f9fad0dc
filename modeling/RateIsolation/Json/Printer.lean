/-
  The text of a JSON value.

  * `Json.Style` holds the decisions of a form: the separators, whether
    characters outside ASCII are escaped, and the indentation;
  * `Json.spaced`, `Json.compact` and `Json.indented` are the forms in use:
    log lines, bodies, and the summary;
  * `Json.chars` and `Json.render` write a value.

  A quote and a backslash are escaped by a backslash, the control characters
  by their letter (`b`, `t`, `n`, `f`, `r`) or their code, and a character
  past `0xffff` is escaped as a pair of surrogates.
-/
import RateIsolation.Json.Basic
import RateIsolation.Number.Shortest
import RateIsolation.Text.Quoted

namespace RateIsolation.Json

/-- The decisions of a JSON text form. -/
structure Style where
  /-- Escape every character outside printable ASCII. -/
  ascii : Bool
  /-- The text between two items on one line. -/
  itemSeparator : String
  /-- The text between a name and its value. -/
  keySeparator : String
  /-- One line per item, with that many more spaces per level. -/
  indent : Option Nat

/-- One line with a space after each comma and colon, in ASCII. -/
def spaced : Style := ⟨true, ", ", ": ", none⟩

/-- One line without spaces, characters unescaped. -/
def compact : Style := ⟨false, ",", ":", none⟩

/-- One item per line with an indentation of two, in ASCII. -/
def indented : Style := ⟨true, ",", ": ", some 2⟩

/-- The escape of a unit of sixteen bits. -/
def escapeUnit (n : Nat) : List Char := '\\' :: 'u' :: Text.hexDigits 4 n

/-- The escape of a character by its code. -/
def escapeCode (c : Char) : List Char :=
  if c.toNat < 0x10000 then escapeUnit c.toNat
  else
    let n := c.toNat - 0x10000
    escapeUnit (0xd800 + n / 0x400) ++ escapeUnit (0xdc00 + n % 0x400)

/-- One character of a string. -/
def escapeChar (ascii : Bool) (c : Char) : List Char :=
  if c = '"' then ['\\', '"']
  else if c = '\\' then ['\\', '\\']
  else if c = '\n' then ['\\', 'n']
  else if c = '\r' then ['\\', 'r']
  else if c = '\t' then ['\\', 't']
  else if c = '\x08' then ['\\', 'b']
  else if c = '\x0c' then ['\\', 'f']
  else if c.toNat < 32 then escapeCode c
  else if ascii && 127 ≤ c.toNat then escapeCode c
  else [c]

/-- One code point of a string. -/
def escapePoint (ascii : Bool) : Point → List Char
  | .char c => escapeChar ascii c
  | .surrogate n => escapeUnit n

/-- The characters of a string between its quotes. -/
def escapeText (ascii : Bool) : WideText → List Char
  | .plain s => s.toList.flatMap (escapeChar ascii)
  | .broken points => points.flatMap (escapePoint ascii)

/-- A string. -/
def stringChars (ascii : Bool) (s : WideText) : List Char :=
  '"' :: (escapeText ascii s ++ ['"'])

/-- The digits of an integer. -/
def intChars (n : Int) : List Char :=
  if n < 0 then '-' :: Nat.toDigits 10 n.natAbs else Nat.toDigits 10 n.natAbs

/-- The text of numbers, which also has names for what is not finite. -/
def floatNotation : Binary64.Notation :=
  { Binary64.plain with infinity := "Infinity", notANumber := "NaN" }

/-- A line break with the indentation of a level, if the style has lines. -/
def lineBreak (style : Style) (level : Nat) : List Char :=
  match style.indent with
  | none => []
  | some width => '\n' :: List.replicate (width * level) ' '

/-- The separator between two items of a level. -/
def separator (style : Style) (level : Nat) : List Char :=
  style.itemSeparator.toList ++ lineBreak style level

mutual

/-- The characters of a value at a level of nesting. -/
def chars (style : Style) (level : Nat) : Json → List Char
  | .null => "null".toList
  | .bool b => if b then "true".toList else "false".toList
  | .int n => intChars n
  | .float x => (floatNotation.text x).toList
  | .str s => stringChars style.ascii s
  | .arr [] => ['[', ']']
  | .arr (item :: rest) =>
    '[' :: (lineBreak style (level + 1) ++ chars style (level + 1) item ++
      itemChars style (level + 1) rest ++ lineBreak style level ++ [']'])
  | .obj [] => ['\x7b', '\x7d']
  | .obj ((name, value) :: rest) =>
    '\x7b' :: (lineBreak style (level + 1) ++ stringChars style.ascii name ++
      style.keySeparator.toList ++ chars style (level + 1) value ++
      memberChars style (level + 1) rest ++ lineBreak style level ++ ['\x7d'])

/-- The characters of the items after the first. -/
def itemChars (style : Style) (level : Nat) : List Json → List Char
  | [] => []
  | item :: rest => separator style level ++ chars style level item ++ itemChars style level rest

/-- The characters of the members after the first. -/
def memberChars (style : Style) (level : Nat) : List (WideText × Json) → List Char
  | [] => []
  | (name, value) :: rest =>
    separator style level ++ stringChars style.ascii name ++ style.keySeparator.toList ++
      chars style level value ++ memberChars style level rest

end

/-- The text of a value. -/
def render (style : Style) (value : Json) : String := String.ofList (chars style 0 value)

end RateIsolation.Json
