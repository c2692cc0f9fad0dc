/-
  Decoding bytes into text.

  * `Decoder.Unit` is what a step of a decoder finds: a code point, or bytes
    that write none;
  * `Decoder.utf8`, `Decoder.utf16` and `Decoder.utf32` cut bytes into units;
    in UTF-8 the bytes of one ill-formed unit are the longest start of a
    well-formed one;
  * `Decoder.replacing` puts U+FFFD for every ill-formed unit and every
    surrogate; `Decoder.strict?` fails on the first ill-formed unit and keeps
    surrogates.
-/
import RateIsolation.Text.Point

namespace RateIsolation

/-- The order of the bytes of a unit. -/
inductive ByteOrder where
  /-- The most significant byte first. -/
  | big
  /-- The least significant byte first. -/
  | little
deriving DecidableEq, Repr

namespace Decoder

/-- What one step of a decoder finds. -/
inductive Unit where
  /-- A code point, possibly a surrogate. -/
  | point (p : Point)
  /-- Bytes that write no code point. -/
  | ill
deriving DecidableEq, Repr

/-! ## UTF-8 -/

/-- A lead byte: its bits, how many bytes follow, and the bounds of the first of those. -/
def utf8Lead (surrogates : Bool) (b : Nat) : Option (Nat × Nat × Nat × Nat) :=
  if b < 0x80 then some (b, 0, 0x80, 0xbf)
  else if b < 0xc2 then none
  else if b < 0xe0 then some (b - 0xc0, 1, 0x80, 0xbf)
  else if b = 0xe0 then some (0, 2, 0xa0, 0xbf)
  else if b = 0xed then some (0xd, 2, 0x80, if surrogates then 0xbf else 0x9f)
  else if b < 0xf0 then some (b - 0xe0, 2, 0x80, 0xbf)
  else if b = 0xf0 then some (0, 3, 0x90, 0xbf)
  else if b < 0xf4 then some (b - 0xf0, 3, 0x80, 0xbf)
  else if b = 0xf4 then some (4, 3, 0x80, 0x8f)
  else none

/-- The bytes that follow a lead byte; the rest starts at the first that does not fit. -/
def utf8Tail : Nat → Nat → Nat → Nat → List UInt8 → Unit × List UInt8
  | 0, bits, _, _, rest => (.point (.ofNat bits), rest)
  | _ + 1, _, _, _, [] => (.ill, [])
  | count + 1, bits, low, high, b :: rest =>
    if low ≤ b.toNat ∧ b.toNat ≤ high then
      utf8Tail count (bits * 64 + (b.toNat - 0x80)) 0x80 0xbf rest
    else (.ill, b :: rest)

/-- The units of UTF-8; a surrogate is ill-formed unless asked for. -/
def utf8Units (surrogates : Bool) : Nat → List UInt8 → List Unit
  | 0, _ => []
  | _ + 1, [] => []
  | fuel + 1, b :: rest =>
    match utf8Lead surrogates b.toNat with
    | none => .ill :: utf8Units surrogates fuel rest
    | some (bits, count, low, high) =>
      let (u, rest') := utf8Tail count bits low high rest
      u :: utf8Units surrogates fuel rest'

/-- The units of UTF-8. -/
def utf8 (surrogates : Bool) (bytes : List UInt8) : List Unit :=
  utf8Units surrogates bytes.length bytes

/-! ## UTF-16 and UTF-32 -/

/-- The number that two bytes write. -/
def pairValue (order : ByteOrder) (a b : UInt8) : Nat :=
  match order with
  | .big => a.toNat * 256 + b.toNat
  | .little => b.toNat * 256 + a.toNat

/-- The units of UTF-16. -/
def utf16 (order : ByteOrder) : List UInt8 → List Unit
  | [] => []
  | [_] => [.ill]
  | a :: b :: rest =>
    let n := pairValue order a b
    if 0xd800 ≤ n ∧ n < 0xdc00 then
      match rest with
      | c :: d :: rest' =>
        let m := pairValue order c d
        if 0xdc00 ≤ m ∧ m < 0xe000 then
          .point (.ofNat (0x10000 + (n - 0xd800) * 0x400 + (m - 0xdc00))) :: utf16 order rest'
        else .point (.surrogate n) :: utf16 order (c :: d :: rest')
      | [_] => [.ill]
      | [] => [.point (.surrogate n)]
    else .point (.ofNat n) :: utf16 order rest
termination_by bytes => bytes.length

/-- The units of UTF-32. -/
def utf32 (order : ByteOrder) : List UInt8 → List Unit
  | [] => []
  | a :: b :: c :: d :: rest =>
    let n := match order with
      | .big => pairValue .big a b * 65536 + pairValue .big c d
      | .little => pairValue .little c d * 65536 + pairValue .little a b
    (if n < 0x110000 then .point (.ofNat n) else .ill) :: utf32 order rest
  | _ => [.ill]

/-! ## Text of units -/

/-- The character of a unit, U+FFFD for what is none. -/
def Unit.replaced : Unit → Char
  | .point (.char c) => c
  | _ => '\ufffd'

/-- The text of units, with U+FFFD for what is no character. -/
def replacing (units : List Unit) : String := String.ofList (units.map Unit.replaced)

/-- The text that bytes write in UTF-8. -/
def utf8Text (bytes : List UInt8) : String := replacing (utf8 false bytes)

/-- The code points of units, if none is ill-formed. -/
def strict? : List Unit → Option (List Point)
  | [] => some []
  | .point p :: rest => (strict? rest).map (p :: ·)
  | .ill :: _ => none

end Decoder

/-- The bytes of a text in UTF-8. -/
def utf8Bytes (s : String) : List UInt8 := s.toUTF8.toList

end RateIsolation
