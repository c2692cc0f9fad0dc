/-
  Reading a JSON text from bytes.

  The encoding is UTF-8, UTF-16 or UTF-32: a byte order mark tells it, and
  without one the zeros among the first bytes, since a JSON text starts with
  two ASCII characters. Encoded lone surrogates are let through. A text with
  more levels than the reader has room for is no value, but not for what is
  wrong with it (`BodyError.tooDeep`).
-/
import RateIsolation.Json.Reader
import RateIsolation.Text.Decoder

namespace RateIsolation.Json

/-- Why bytes write no JSON value. -/
inductive BodyError where
  /-- The bytes are not text. -/
  | undecodable
  /-- The text is not JSON: what is wrong, and at which code point. -/
  | invalid (fault : ReadFault) (position : Nat)
  /-- The reader had no room for a level of the text. -/
  | tooDeep (bracket : Bracket)
deriving DecidableEq, Repr

/-- The code points of bytes in the encoding that their start tells. -/
def bodyPoints? (bytes : List UInt8) : Option (List Point) :=
  let units : List Decoder.Unit := match bytes with
    | 0 :: 0 :: 0xfe :: 0xff :: rest => Decoder.utf32 .big rest
    | 0xff :: 0xfe :: 0 :: 0 :: rest => Decoder.utf32 .little rest
    | 0xfe :: 0xff :: rest => Decoder.utf16 .big rest
    | 0xff :: 0xfe :: rest => Decoder.utf16 .little rest
    | 0xef :: 0xbb :: 0xbf :: rest => Decoder.utf8 true rest
    | a :: b :: c :: d :: _ =>
      if a = 0 then (if b = 0 then Decoder.utf32 .big bytes else Decoder.utf16 .big bytes)
      else if b = 0 then
        (if c = 0 ∧ d = 0 then Decoder.utf32 .little bytes else Decoder.utf16 .little bytes)
      else Decoder.utf8 true bytes
    | [a, b] =>
      if a = 0 then Decoder.utf16 .big bytes
      else if b = 0 then Decoder.utf16 .little bytes
      else Decoder.utf8 true bytes
    | _ => Decoder.utf8 true bytes
  Decoder.strict? units

/-- How many levels a reader has room for in an ordinary place: what a stack of a thousand calls has
    left there. -/
def usualRoom : Nat := 970

/-- The value that bytes write, if it has no more levels than there is room for. -/
def ofBytes (room : Nat) (bytes : List UInt8) : Except BodyError Json :=
  match bodyPoints? bytes with
  | none => .error .undecodable
  | some ps =>
    match ofPoints (some room) ps with
    | .ok v => .ok v
    | .error ⟨.tooDeep bracket, _⟩ => .error (.tooDeep bracket)
    | .error e => .error (.invalid e.fault (e.position ps.length))

end RateIsolation.Json
