/-
  Percent encoding.

  A character that a component does not admit is written as the bytes of its
  UTF-8 form, each a percent sign and two hexadecimal digits. Escapes that
  are already there stay as they are.

  * `unreserved` and `subDelims` are the classes of the standard; a component
    admits the unreserved characters and those of its own set;
  * `Percent.encode` writes a component, `Percent.decode` reads one.
-/
import RateIsolation.Text.CharClass
import RateIsolation.Text.Decoder

namespace RateIsolation.Percent

/-- Letters, digits and four marks. -/
def unreserved (c : Char) : Bool := c.isAlphanum || "-._~".toList.contains c

/-- The characters that delimit parts of a component. -/
def subDelims (c : Char) : Bool := "!$&'()*+,;=".toList.contains c

/-- A printable ASCII character that is none of the listed ones. -/
def visibleExcept (excluded : List Char) (c : Char) : Bool :=
  32 ≤ c.toNat && c.toNat < 127 && !excluded.contains c

/-- A hexadecimal digit in upper case. -/
def upperHexDigit (n : Nat) : Char := (Nat.digitChar (n % 16)).toUpper

/-- The escape of a byte. -/
def escapeByte (b : UInt8) : List Char :=
  ['%', upperHexDigit (b.toNat / 16), upperHexDigit b.toNat]

/-- The escape of a character. -/
def escapeChar (c : Char) : List Char := (utf8Bytes (String.ofList [c])).flatMap escapeByte

/-- A component in which the characters of a set stay as they are. -/
def encodeList (safe : Char → Bool) : List Char → List Char
  | '%' :: a :: b :: rest =>
    if (Text.hexValue? a).isSome && (Text.hexValue? b).isSome then
      '%' :: a :: b :: encodeList safe rest
    else
      (if unreserved '%' || safe '%' then ['%'] else escapeChar '%') ++
        encodeList safe (a :: b :: rest)
  | c :: rest => (if unreserved c || safe c then [c] else escapeChar c) ++ encodeList safe rest
  | [] => []

/-- A component in which the characters of a set stay as they are. -/
def encode (safe : Char → Bool) (s : String) : String := String.ofList (encodeList safe s.toList)

/-- The bytes that a component writes. -/
def decodeBytes : List Char → List UInt8
  | '%' :: a :: b :: rest =>
    match Text.hexValue? a, Text.hexValue? b with
    | some x, some y => (x * 16 + y).toUInt8 :: decodeBytes rest
    | _, _ => '%'.toNat.toUInt8 :: decodeBytes (a :: b :: rest)
  | c :: rest => utf8Bytes (String.ofList [c]) ++ decodeBytes rest
  | [] => []

/-- The text that a component writes, with U+FFFD for bytes that are not UTF-8. -/
def decode (s : String) : String := Decoder.utf8Text (decodeBytes s.toList)

end RateIsolation.Percent
