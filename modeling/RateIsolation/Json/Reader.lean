/-
  Reading a JSON text.

  The reader accepts the standard grammar, the names `NaN`, `Infinity` and
  `-Infinity`, and escapes of lone surrogates. Of two members with one name
  the later wins. It refuses a control character inside a string and an
  integer of more than 4300 digits, and gives up at a bracket that opens a
  level for which it has no room.

  * `Json.ReadError` says what was wrong, and how many code points were left
    where it was noticed; `ReadError.position` counts from the start;
  * `Json.ofPoints` reads a whole text, `Json.ofString` an ordinary one;
  * every step takes the code points that are left and returns those after
    it. The steps that call each other take fuel, which `ofPoints` computes
    from the length of the text and which never runs out, and their room: how
    many levels may still be entered, if there is a limit.
-/
import RateIsolation.Json.Basic
import RateIsolation.Text.CharClass

namespace RateIsolation.Json

/-- What opens a level. -/
inductive Bracket where
  | list
  | object
deriving DecidableEq, Repr

/-- The words for a bracket that could not be entered. -/
def Bracket.message : Bracket → String
  | list => "maximum recursion depth exceeded while decoding a JSON array from a unicode string"
  | object => "maximum recursion depth exceeded while decoding a JSON object from a unicode string"

/-- What was wrong with a JSON text. -/
inductive ReadFault where
  /-- No value starts here. -/
  | expectingValue
  /-- An item is not followed by a comma or the end of its list or object. -/
  | expectingComma
  /-- A name is not followed by a colon. -/
  | expectingColon
  /-- A member does not start with a quote. -/
  | expectingName
  /-- Something follows the value. -/
  | extraData
  /-- A control character inside a string. -/
  | controlCharacter
  /-- A string without its closing quote. -/
  | unterminatedString
  /-- A backslash followed by a character that it does not escape. -/
  | badEscape
  /-- An escape without four hexadecimal digits. -/
  | badUnicodeEscape
  /-- An integer of more than 4300 digits. -/
  | longInteger (digits : Nat)
  /-- A bracket for which there was no room. -/
  | tooDeep (bracket : Bracket)
deriving DecidableEq, Repr

/-- The words for a fault. -/
def ReadFault.message : ReadFault → String
  | expectingValue => "Expecting value"
  | expectingComma => "Expecting ',' delimiter"
  | expectingColon => "Expecting ':' delimiter"
  | expectingName => "Expecting property name enclosed in double quotes"
  | extraData => "Extra data"
  | controlCharacter => "Invalid control character at"
  | unterminatedString => "Unterminated string starting at"
  | badEscape => "Invalid \\escape"
  | badUnicodeEscape => "Invalid \\uXXXX escape"
  | longInteger digits =>
    "Exceeds the limit (4300 digits) for integer string conversion: value has " ++
      toString digits ++ " digits; use sys.set_int_max_str_digits() to increase the limit"
  | tooDeep bracket => bracket.message

/-- A fault and where it was noticed. -/
structure ReadError where
  /-- What was wrong. -/
  fault : ReadFault
  /-- How many code points were left. -/
  left : Nat
deriving DecidableEq, Repr

/-- The position of an error in a text of that length. -/
def ReadError.position (e : ReadError) (length : Nat) : Nat := length - e.left

/-- The result of a step: what was read, and the code points after it. -/
abbrev Step (α : Type) := Except ReadError (α × List Point)

/-- A fault noticed before `rest`. -/
def failAt {α : Type} (fault : ReadFault) (rest : List Point) : Except ReadError α :=
  .error ⟨fault, rest.length⟩

/-- The white space of JSON. -/
def isSpace : Point → Bool
  | .char c => c == ' ' || c == '\t' || c == '\n' || c == '\r'
  | .surrogate _ => false

/-- The code points after the white space. -/
def skipSpace (ps : List Point) : List Point := ps.dropWhile isSpace

/-- The code points after a word, if the text starts with it. -/
def afterWord : List Char → List Point → Option (List Point)
  | [], ps => some ps
  | c :: cs, .char d :: ps => if c = d then afterWord cs ps else none
  | _ :: _, _ => none

/-! ## Strings -/

/-- The value of a hexadecimal digit. -/
def hexPoint? : Point → Option Nat
  | .char c => Text.hexValue? c
  | .surrogate _ => none

/-- Four hexadecimal digits. -/
def hexUnit : List Point → Option (Nat × List Point)
  | a :: b :: c :: d :: rest =>
    match hexPoint? a, hexPoint? b, hexPoint? c, hexPoint? d with
    | some a, some b, some c, some d => some (((a * 16 + b) * 16 + c) * 16 + d, rest)
    | _, _, _, _ => none
  | _ => none

/-- Whether a unit is the first half of a pair. -/
def isHighSurrogate (n : Nat) : Bool := 0xd800 ≤ n && n < 0xdc00

/-- Whether a unit is the second half of a pair. -/
def isLowSurrogate (n : Nat) : Bool := 0xdc00 ≤ n && n < 0xe000

/-- The code point of a pair. -/
def joinPair (high low : Nat) : Nat := 0x10000 + (high - 0xd800) * 0x400 + (low - 0xdc00)

/-- The escape after `\u`; `left` counts from the `u`. -/
def unicodeEscape (left : Nat) (ps : List Point) : Step Point :=
  match hexUnit ps with
  | none => .error ⟨.badUnicodeEscape, left⟩
  | some (_, []) => .error ⟨.badUnicodeEscape, left⟩
  | some (n, rest) =>
    if isHighSurrogate n then
      match rest with
      | .char '\\' :: .char 'u' :: more =>
        -- the second half counts only if the text goes on after it
        if more.length ≤ 4 then .ok (.ofNat n, rest)
        else
          match hexUnit more with
          | none => .error ⟨.badUnicodeEscape, more.length + 1⟩
          | some (m, after) =>
            if isLowSurrogate m then .ok (.ofNat (joinPair n m), after)
            else .ok (.ofNat n, rest)
      | _ => .ok (.ofNat n, rest)
    else .ok (.ofNat n, rest)

/-- The character that a letter after a backslash stands for. -/
def escapedChar? : Point → Option Char
  | .char '"' => some '"'
  | .char '\\' => some '\\'
  | .char '/' => some '/'
  | .char 'b' => some '\x08'
  | .char 'f' => some '\x0c'
  | .char 'n' => some '\n'
  | .char 'r' => some '\r'
  | .char 't' => some '\t'
  | _ => none

/-- The escape after a backslash; `start` counts from the opening quote. -/
def escape (start : Nat) : List Point → Step Point
  | [] => .error ⟨.unterminatedString, start⟩
  | .char 'u' :: rest => unicodeEscape (rest.length + 1) rest
  | p :: rest =>
    match escapedChar? p with
    | some c => .ok (.char c, rest)
    | none => .error ⟨.badEscape, rest.length + 2⟩

/-- The code points of a string up to its closing quote, in reverse after `seen`. -/
def stringBody (start : Nat) : Nat → List Point → List Point → Step WideText
  | 0, _, _ => .error ⟨.unterminatedString, start⟩
  | _ + 1, _, [] => .error ⟨.unterminatedString, start⟩
  | _ + 1, seen, .char '"' :: rest => .ok (.ofPoints seen.reverse, rest)
  | fuel + 1, seen, .char '\\' :: rest =>
    match escape start rest with
    | .ok (p, rest') => stringBody start fuel (p :: seen) rest'
    | .error e => .error e
  | fuel + 1, seen, .char c :: rest =>
    if c.toNat < 32 then failAt .controlCharacter (.char c :: rest)
    else stringBody start fuel (.char c :: seen) rest
  | fuel + 1, seen, .surrogate n :: rest => stringBody start fuel (.surrogate n :: seen) rest

/-- A string after its opening quote. -/
def stringTail (rest : List Point) : Step WideText :=
  stringBody (rest.length + 1) (rest.length + 1) [] rest

/-! ## Numbers -/

/-- The value of a decimal digit. -/
def digitPoint? : Point → Option Nat
  | .char c => Text.asciiDigit? c
  | .surrogate _ => none

/-- The digits at the start, and the rest. -/
def takeDigits : List Point → List Nat × List Point
  | [] => ([], [])
  | p :: rest =>
    match digitPoint? p with
    | some d => let (ds, rest') := takeDigits rest; (d :: ds, rest')
    | none => ([], p :: rest)

/-- The number that digits write. -/
def ofDigits (ds : List Nat) : Nat := ds.foldl (fun n d => n * 10 + d) 0

/-- The digits before a point or an exponent: a zero alone, or none that starts with zero. -/
def takeWhole : List Point → List Nat × List Point
  | .char '0' :: rest => ([0], rest)
  | ps => takeDigits ps

/-- The digits after a point, if there are any. -/
def takeFraction : List Point → Option (List Nat × List Point)
  | .char '.' :: rest =>
    match takeDigits rest with
    | ([], _) => none
    | (ds, rest') => some (ds, rest')
  | _ => none

/-- The digits of an exponent after its letter, with a sign. -/
def takeSigned (ps : List Point) : Option (Int × List Point) :=
  let (negative, rest) : Bool × List Point := match ps with
    | .char '-' :: rest => (true, rest)
    | .char '+' :: rest => (false, rest)
    | rest => (false, rest)
  match takeDigits rest with
  | ([], _) => none
  | (ds, rest') => some (if negative then -(ofDigits ds : Int) else ofDigits ds, rest')

/-- An exponent, if there is one. -/
def takeExponent : List Point → Option (Int × List Point)
  | .char 'e' :: rest => takeSigned rest
  | .char 'E' :: rest => takeSigned rest
  | _ => none

/-- The greatest number of digits of an integer. -/
def maxIntDigits : Nat := 4300

/-- A number; without a fraction and an exponent it is an integer. -/
def number (ps : List Point) : Step Json :=
  let (negative, unsigned) : Bool × List Point := match ps with
    | .char '-' :: rest => (true, rest)
    | rest => (false, rest)
  match takeWhole unsigned with
  | ([], _) => failAt .expectingValue ps
  | (whole, rest) =>
    let (fraction, afterFraction, hasFraction) : List Nat × List Point × Bool :=
      match takeFraction rest with
      | some (ds, rest') => (ds, rest', true)
      | none => ([], rest, false)
    let (exponent, afterExponent, hasExponent) : Int × List Point × Bool :=
      match takeExponent afterFraction with
      | some (e, rest') => (e, rest', true)
      | none => (0, afterFraction, false)
    if hasFraction || hasExponent then
      .ok (.float (.ofDecimal negative (ofDigits (whole ++ fraction))
        (exponent - (fraction.length : Int))), afterExponent)
    else if whole.length > maxIntDigits then failAt (.longInteger whole.length) ps
    else
      let n : Int := ofDigits whole
      .ok (.int (if negative then -n else n), rest)

/-- A word that is a value, or a number. -/
def wordOrNumber (ps : List Point) : Step Json :=
  match afterWord "null".toList ps with
  | some rest => .ok (.null, rest)
  | none =>
  match afterWord "true".toList ps with
  | some rest => .ok (.bool true, rest)
  | none =>
  match afterWord "false".toList ps with
  | some rest => .ok (.bool false, rest)
  | none =>
  match afterWord "NaN".toList ps with
  | some rest => .ok (.float .nan, rest)
  | none =>
  match afterWord "Infinity".toList ps with
  | some rest => .ok (.float (.infinite false), rest)
  | none =>
  match afterWord "-Infinity".toList ps with
  | some rest => .ok (.float (.infinite true), rest)
  | none => number ps

/-! ## Values -/

/-- The room inside of a bracket, if there is any. -/
def enter : Option Nat → Option (Option Nat)
  | none => some none
  | some 0 => none
  | some (n + 1) => some (some n)

mutual

/-- A value. -/
def value : Nat → Option Nat → List Point → Step Json
  | 0, _, ps => failAt .expectingValue ps
  | fuel + 1, room, ps =>
    match ps with
    | .char '"' :: rest =>
      match stringTail rest with
      | .ok (s, rest') => .ok (.str s, rest')
      | .error e => .error e
    | .char '[' :: rest =>
      match enter room with
      | none => failAt (.tooDeep .list) (.char '[' :: rest)
      | some inner =>
        match skipSpace rest with
        | .char ']' :: rest' => .ok (.arr [], rest')
        | rest' => items fuel inner [] rest'
    | .char '\x7b' :: rest =>
      match enter room with
      | none => failAt (.tooDeep .object) (.char '\x7b' :: rest)
      | some inner =>
        match skipSpace rest with
        | .char '\x7d' :: rest' => .ok (.obj [], rest')
        | rest' => members fuel inner [] rest'
    | ps => wordOrNumber ps

/-- The items of a list from the next one on, in reverse after `seen`. -/
def items : Nat → Option Nat → List Json → List Point → Step Json
  | 0, _, _, ps => failAt .expectingValue ps
  | fuel + 1, room, seen, ps =>
    match value fuel room ps with
    | .error e => .error e
    | .ok (item, rest) =>
      match skipSpace rest with
      | .char ']' :: rest' => .ok (.arr (item :: seen).reverse, rest')
      | .char ',' :: rest' => items fuel room (item :: seen) (skipSpace rest')
      | rest' => failAt .expectingComma rest'

/-- The members of an object from the next one on, added to `seen`. -/
def members : Nat → Option Nat → List (WideText × Json) → List Point → Step Json
  | 0, _, _, ps => failAt .expectingName ps
  | fuel + 1, room, seen, ps =>
    match ps with
    | .char '"' :: rest =>
      match stringTail rest with
      | .error e => .error e
      | .ok (name, rest) =>
        match skipSpace rest with
        | .char ':' :: rest =>
          match value fuel room (skipSpace rest) with
          | .error e => .error e
          | .ok (v, rest) =>
            match skipSpace rest with
            | .char '\x7d' :: rest' => .ok (.obj (Table.set name v seen), rest')
            | .char ',' :: rest' => members fuel room (Table.set name v seen) (skipSpace rest')
            | rest' => failAt .expectingComma rest'
        | rest' => failAt .expectingColon rest'
    | ps => failAt .expectingName ps

end

/-- The value of a whole text that has room for some levels. -/
def ofPoints (room : Option Nat) (ps : List Point) : Except ReadError Json :=
  match value (2 * ps.length + 2) room (skipSpace ps) with
  | .error e => .error e
  | .ok (v, rest) =>
    match skipSpace rest with
    | [] => .ok v
    | rest' => failAt .extraData rest'

/-- The value of an ordinary text, however deep. -/
def ofString (s : String) : Except ReadError Json := ofPoints none (Point.ofString s)

end RateIsolation.Json
