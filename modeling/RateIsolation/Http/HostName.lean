/-
  Host names outside ASCII in the form of the name system (IDNA 2008).

  A name is cut into labels at its dots. A label with other characters is
  written as `xn--` and its code; a label that is written so already must be
  the code of such a label.

  * `HostName.isComposed`: characters that could be written as one are, and
    marks are in their order;
  * `HostName.allFit`: each character is one that a label may hold, some of
    them beside certain others only;
  * `HostName.isDirected`: a label with characters that are written from the
    right holds few others;
  * `HostName.isLabel` puts these and the rules of hyphens and marks together;
  * `HostName.encode?` is the written form of a name, if it has one.
-/
import RateIsolation.Http.HostChar
import RateIsolation.Http.Punycode
import RateIsolation.Text.LowerCase

namespace RateIsolation.HostName

open HostChar

/-! ## Composition -/

/-- The characters that a character stands for, which may stand for others. -/
def decompose : Nat → Char → List Char
  | 0, c => [c]
  | fuel + 1, c =>
    match compositions.find? fun (_, _, whole) => whole == c.toNat with
    | some (first, second, _) => decompose fuel (Char.ofNat first) ++ [Char.ofNat second]
    | none => [c]

/-- Put a character before others, a mark behind those that it follows. -/
def insertMark (c : Char) : List Char → List Char
  | [] => [c]
  | d :: rest =>
    if combiningClass d != 0 && combiningClass d < combiningClass c then d :: insertMark c rest
    else c :: d :: rest

/-- The characters that stand for themselves, with the marks in order. -/
def decomposed (label : List Char) : List Char :=
  (label.flatMap (decompose 4)).foldr insertMark []

/-- The character that two characters are written as. -/
def composition? (c d : Char) : Option Char :=
  (compositions.find? fun (first, second, _) => first == c.toNat && second == d.toNat).map
    fun (_, _, whole) => Char.ofNat whole

/-- Compose characters after a first one and the marks kept after it, which are in reverse. -/
def composeAfter (first : Char) (kept : List Char) : List Char → List Char
  | [] => first :: kept.reverse
  | c :: rest =>
    let blocked := match kept with
      | [] => false
      | d :: _ => !(combiningClass d < combiningClass c)
    match if blocked then none else composition? first c with
    | some whole => composeAfter whole kept rest
    | none =>
      if combiningClass c = 0 then first :: kept.reverse ++ composeAfter c [] rest
      else composeAfter first (c :: kept) rest

/-- Whether all characters are written as few as they can be, and marks in their order. -/
def isComposed (label : List Char) : Bool :=
  match decomposed label with
  | [] => true
  | c :: rest => composeAfter c [] rest == label

/-! ## Characters by their neighbours -/

/-- Whether the character before is one that joins consonants. -/
def afterVirama (before : List Char) : Bool :=
  match before with
  | c :: _ => combiningClass c == 9
  | [] => false

/-- Whether the first character that joining does not pass over has a property. -/
def meets (p : Char → Bool) (cs : List Char) : Bool :=
  match cs.dropWhile isTransparent with
  | c :: _ => p c
  | [] => false

/-- Whether the next character has a property. -/
def isNext (p : Char → Bool) (cs : List Char) : Bool :=
  match cs with
  | c :: _ => p c
  | [] => false

/-- Whether a character is one of the ten digits from a code point on. -/
def isDigitFrom (first : Nat) (c : Char) : Bool := first ≤ c.toNat && c.toNat < first + 10

/-- Whether a label may hold a character between those before it, the nearest first, and those
    after it. -/
def fits (before : List Char) (c : Char) (after : List Char) : Bool :=
  if isAdmitted c then true
  else if c = '\u200c' then
    afterVirama before || (meets joinsNext before && meets joinsPrevious after)
  else if c = '\u200d' then afterVirama before
  else if c = '\u00b7' then isNext (· == 'l') before && isNext (· == 'l') after
  else if c = '\u0375' then isNext (Text.inRanges greek) after
  else if c = '\u05f3' || c = '\u05f4' then isNext (Text.inRanges hebrew) before
  else if c = '\u30fb' then (before ++ after).any (Text.inRanges eastAsian)
  -- digits of one of the two kinds only
  else if isDigitFrom 0x660 c then !(before ++ after).any (isDigitFrom 0x6f0)
  else if isDigitFrom 0x6f0 c then !(before ++ after).any (isDigitFrom 0x660)
  else false

/-- Whether all characters fit after some others, the nearest of these first. -/
def allFit (before : List Char) : List Char → Bool
  | [] => true
  | c :: rest => fits before c rest && allFit (c :: before) rest

/-! ## Directions -/

/-- Whether a direction is one from the right. -/
def isFromRight (d : Direction) : Bool := [.right, .arabic, .arabicNumber].contains d

/-- Whether directions are those of a label: without any from the right, or from the right at the
    start, never from the left, with numbers of one kind, and not neutral at the end. -/
def isDirected (directions : List Direction) : Bool :=
  if directions.any isFromRight then
    [some .right, some .arabic].contains directions.head? &&
      !directions.contains .left &&
      !(directions.contains .arabicNumber && directions.contains .europeanNumber) &&
      match directions.reverse.dropWhile (· == .mark) with
      | last :: _ => last == .europeanNumber || isFromRight last
      | [] => false
  else true

/-! ## Labels and names -/

/-- Whether characters are a label. -/
def isLabel (label : List Char) : Bool :=
  match label with
  | [] => false
  | c :: _ =>
    isComposed label && (label.drop 2).take 2 != ['-', '-'] &&
      c != '-' && label.getLast? != some '-' && !Text.isMark c && allFit [] label &&
      isDirected (label.map direction)

/-- Whether characters in ASCII are a label, or the code of one after its sign. -/
def isAsciiLabel (label : List Char) : Bool :=
  if ['x', 'n', '-', '-'].isPrefixOf label then
    let code := label.drop 4
    !code.isEmpty && code.getLast? != some '-' &&
      match Punycode.decode? code with
      | some text => isLabel text
      | none => false
  else isLabel label

/-- The written form of a label, if it has one. -/
def encodeLabel (label : List Char) : Option (List Char) :=
  let written :=
    if label.all (·.toNat < 128) then if isAsciiLabel label then some label else none
    else if isLabel label then some ("xn--".toList ++ Punycode.encode label)
    else none
  written.filter (·.length ≤ 63)

/-- Whether a character ends a label. -/
def isDot (c : Char) : Bool :=
  c == '.' || c == '\u3002' || c == '\uff0e' || c == '\uff61'

/-- The labels of a name. -/
def labels : List Char → List (List Char)
  | [] => [[]]
  | c :: rest =>
    if isDot c then [] :: labels rest
    else
      match labels rest with
      | [] => [[c]]
      | part :: parts => (c :: part) :: parts

/-- The labels with a dot between each two; the last may be empty. -/
def joinLabels : List (List Char) → List Char
  | [] => []
  | [l] => l
  | l :: rest => l ++ '.' :: joinLabels rest

/-- The written form of a name, if all its labels have one and neither is too long. -/
def encode? (name : String) : Option String :=
  let lower := (Text.toLower name).toList
  let parts := labels lower
  -- a dot at the end ends the last label
  let (body, ending) := match parts.getLast? with
    | some [] => if parts.length > 1 then (parts.dropLast, [[]]) else (parts, [])
    | _ => (parts, [])
  match body.mapM encodeLabel with
  | none => none
  | some written =>
    let result := joinLabels (written ++ ending)
    if lower.length ≤ 254 && result.length ≤ 253 + ending.length then some (String.ofList result)
    else none

end RateIsolation.HostName
