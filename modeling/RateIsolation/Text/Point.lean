/-
  Code points of decoded text.

  A decoder that lets surrogates through, and an escape of half a pair,
  give text that no `String` can hold. `Point` is one code point of such
  text, and `WideText` the text: an ordinary string whenever no surrogate
  stands alone (`WideText.ofPoints`), so that ordinary text has one form.
-/

namespace RateIsolation

/-- A code point: a character, or a surrogate that stands alone. -/
inductive Point where
  /-- A character. -/
  | char (c : Char)
  /-- The surrogate of that number. -/
  | surrogate (n : Nat)
deriving DecidableEq, Repr, Inhabited

/-- The code point of a number below `0x110000`. -/
def Point.ofNat (n : Nat) : Point :=
  if h : n.isValidChar then .char (Char.ofNatAux n h) else .surrogate n

/-- The code points of a string. -/
def Point.ofString (s : String) : List Point := s.toList.map .char

/-- The characters of code points, if all of them are characters. -/
def Point.chars? : List Point → Option (List Char)
  | [] => some []
  | .char c :: rest => (chars? rest).map (c :: ·)
  | .surrogate _ :: _ => none

/-- Text in which a surrogate may stand alone. -/
inductive WideText where
  /-- Ordinary text. -/
  | plain (s : String)
  /-- Text with at least one lone surrogate. -/
  | broken (points : List Point)
deriving DecidableEq, Repr, Inhabited

/-- The code points of text. -/
def WideText.points : WideText → List Point
  | .plain s => Point.ofString s
  | .broken points => points

/-- The text of code points. -/
def WideText.ofPoints (points : List Point) : WideText :=
  match Point.chars? points with
  | some cs => .plain (String.ofList cs)
  | none => .broken points

/-- The first code points of text. -/
def WideText.take (n : Nat) (t : WideText) : WideText := .ofPoints (t.points.take n)

theorem Point.chars?_map_char (cs : List Char) : Point.chars? (cs.map .char) = some cs := by
  induction cs with
  | nil => rfl
  | cons c cs ih => simp [chars?, ih]

@[simp] theorem WideText.ofPoints_ofString (s : String) :
    WideText.ofPoints (Point.ofString s) = .plain s := by
  simp [ofPoints, Point.ofString, Point.chars?_map_char]

end RateIsolation
