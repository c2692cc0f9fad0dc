/-
  Punycode: text in letters, digits and hyphens.

  The code of a text has its ASCII characters, then the positions and values
  of the others as differences, each in a base of thirty-six whose digits end a
  number when they are below a threshold; the thresholds follow a bias.

  * `Punycode.encode` gives the code of a text;
  * `Punycode.decode?` gives the text of a code.
-/

namespace RateIsolation.Punycode

/-- The digit of a value below thirty-six. -/
def digit (n : Nat) : Char := Char.ofNat (if n < 26 then 97 + n else 22 + n)

/-- The value of a digit. -/
def digitValue? (c : Char) : Option Nat :=
  if c.isLower then some (c.toNat - 97)
  else if c.isDigit then some (c.toNat - 22)
  else none

/-- The threshold of the digit at a place, under a bias. -/
def threshold (bias place : Nat) : Nat :=
  if place ≤ bias then 1 else if bias + 26 ≤ place then 26 else place - bias

/-- The bias after a difference, for the next one. -/
def adapt (delta count : Nat) (first : Bool) : Nat :=
  let scaled := if first then delta / 700 else delta / 2
  let rec reduce : Nat → Nat → Nat → Nat
    | 0, _, k => k
    | fuel + 1, d, k => if d > 455 then reduce fuel (d / 35) (k + 36) else k + 36 * d / (d + 38)
  reduce 64 (scaled + scaled / count) 0

/-! ## Encoding -/

/-- The digits of a difference from a place on. -/
def writeNumber : Nat → Nat → Nat → Nat → List Char
  | 0, _, _, _ => []
  | fuel + 1, bias, place, q =>
    let t := threshold bias place
    if q < t then [digit q]
    else digit (t + (q - t) % (36 - t)) :: writeNumber fuel bias (place + 36) ((q - t) / (36 - t))

/-- What is kept between two differences. -/
structure State where
  /-- The characters below this code point are written. -/
  next : Nat
  /-- The difference so far. -/
  delta : Nat
  bias : Nat
  /-- How many characters are written. -/
  written : Nat
  output : List Char

/-- Go past one character of the text. -/
def passChar (basic : Nat) (s : State) (c : Char) : State :=
  if c.toNat < s.next then { s with delta := s.delta + 1 }
  else if c.toNat = s.next then
    { s with
      output := s.output ++ writeNumber 64 s.bias 36 s.delta
      bias := adapt s.delta (s.written + 1) (s.written == basic)
      delta := 0
      written := s.written + 1 }
  else s

/-- Write the characters with the least code point not yet written, then the others. -/
def rounds (text : List Char) (basic : Nat) : Nat → State → List Char
  | 0, s => s.output
  | fuel + 1, s =>
    match ((text.map Char.toNat).filter (s.next ≤ ·)).min? with
    | none => s.output
    | some least =>
      let start := { s with
        delta := s.delta + (least - s.next) * (s.written + 1), next := least }
      let s' := text.foldl (passChar basic) start
      rounds text basic fuel { s' with delta := s'.delta + 1, next := least + 1 }

/-- The code of a text. -/
def encode (text : List Char) : List Char :=
  let ascii := text.filter (·.toNat < 128)
  let head := if ascii.isEmpty then [] else ascii ++ ['-']
  head ++ rounds text ascii.length (text.length + 1)
    { next := 128, delta := 0, bias := 72, written := ascii.length, output := [] }

/-! ## Decoding -/

/-- The number that digits write from a place on, and the rest. -/
def readNumber (bias : Nat) : Nat → Nat → Nat → List Char → Option (Nat × List Char)
  | _, _, _, [] => none
  | place, weight, sum, c :: rest =>
    match digitValue? c with
    | none => none
    | some d =>
      let t := threshold bias place
      if d < t then some (sum + d * weight, rest)
      else readNumber bias (place + 36) (weight * (36 - t)) (sum + d * weight) rest

/-- Put in the characters that differences write, if they are characters: `code` is the least that
    the next one can be, `start` the place from which its own is counted. -/
def insertAll : Nat → Bool → Nat → Nat → Nat → List Char → List Char → Option (List Char)
  | _, _, _, _, _, text, [] => some text
  | 0, _, _, _, _, _, _ => none
  | fuel + 1, first, code, start, bias, text, digits =>
    match readNumber bias 36 1 0 digits with
    | none => none
    | some (delta, rest) =>
      let count := text.length + 1
      let code := code + (start + delta) / count
      let place := (start + delta) % count
      if h : code.isValidChar then
        insertAll fuel false code (place + 1) (adapt delta count first)
          (text.insertIdx place (Char.ofNatAux code h)) rest
      else none

/-- The text of a code in lower case, if it is one. -/
def decode? (code : List Char) : Option (List Char) :=
  let digits := (code.reverse.takeWhile (· != '-')).reverse
  let ascii := code.take (code.length - digits.length - 1)
  insertAll digits.length true 128 0 72 ascii digits

end RateIsolation.Punycode
