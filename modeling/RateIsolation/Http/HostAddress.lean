/-
  Hosts given as numbers.

  * `looksLikeIpv4`: four runs of digits with any character between them,
    the form in which a host is read as an address and not as a name;
  * `isIpv4` and `isIpv6`: whether a text is an address.
-/
import RateIsolation.Text.CharClass

namespace RateIsolation.HostAddress

/-- Split at every occurrence of a character. -/
def splitAt (sep : Char) : List Char → List (List Char)
  | [] => [[]]
  | c :: rest =>
    if c = sep then [] :: splitAt sep rest
    else
      match splitAt sep rest with
      | [] => [[c]]
      | part :: parts => (c :: part) :: parts

/-- A digit from `0` to `9`. -/
def isDigit (c : Char) : Bool := '0' ≤ c && c ≤ '9'

/-- The ways on after one more character: which run of digits, and whether it has begun. -/
def ipv4Step (c : Char) (ways : List (Nat × Bool)) : List (Nat × Bool) :=
  (ways.flatMap fun (run, begun) =>
    (if isDigit c then [(run, true)] else []) ++
      (if begun && run < 3 then [(run + 1, false)] else [])).eraseDups

/-- Four runs of digits with one character between each two. -/
def looksLikeIpv4 (cs : List Char) : Bool :=
  (cs.foldl (fun ways c => ipv4Step c ways) [(0, false)]).contains (3, true)

/-- One of the four numbers: up to three digits, no leading zero, at most 255. -/
def isOctet (cs : List Char) : Bool :=
  !cs.isEmpty && cs.all isDigit && cs.length ≤ 3 && (cs.length == 1 || cs.head? != some '0') &&
    cs.foldl (fun n c => n * 10 + (c.toNat - 48)) 0 ≤ 255

/-- An address of four numbers. -/
def isIpv4 (cs : List Char) : Bool :=
  let parts := splitAt '.' cs
  parts.length == 4 && parts.all isOctet

/-- One of the eight numbers: up to four hexadecimal digits. -/
def isHextet (cs : List Char) : Bool :=
  !cs.isEmpty && cs.length ≤ 4 && cs.all fun c => (Text.hexValue? c).isSome

/-- An empty part between two others, where zeros are left out. -/
def gapPositions (parts : List (List Char)) : List Nat :=
  (List.range parts.length).filter fun i =>
    0 < i && i + 1 < parts.length && (parts[i]?).any List.isEmpty

/-- The parts of an address, with two for a part in the notation of four numbers. -/
def ipv6Parts (cs : List Char) : Option (List (List Char)) :=
  let parts := splitAt ':' cs
  let last := parts.getLast?.getD []
  if last.contains '.' then
    if isIpv4 last then some (parts.dropLast ++ [['0'], ['0']]) else none
  else some parts

/-- An address of eight numbers, a run of zeros left out at most once. -/
def isIpv6Body (cs : List Char) : Bool :=
  if (splitAt ':' cs).length < 3 || cs.contains '/' then false
  else
    match ipv6Parts cs with
    | none => false
    | some parts =>
      if parts.length > 9 then false
      else
        match gapPositions parts with
        | [] => parts.length == 8 && parts.all isHextet
        | [gap] =>
          let before := parts.take gap
          let after := parts.drop (gap + 1)
          let before := if before == [[]] then [] else before
          let after := if after == [[]] then [] else after
          before.all isHextet && after.all isHextet && before.length + after.length < 8
        | _ => false

/-- An address of eight numbers, with an optional zone after a percent sign. -/
def isIpv6 (cs : List Char) : Bool :=
  match splitAt '%' cs with
  | [body] => isIpv6Body body
  | [body, zone] => !zone.isEmpty && isIpv6Body body
  | _ => false

end RateIsolation.HostAddress
