/-
  The shortest decimal that reads back as a given binary number, and its text.

  A number and the points that round to it form an interval, whose ends
  belong to it if the number's significand is even. On the grid of decimals
  with `n` significant digits the value has two neighbours; the first `n`
  for which one of them lies in the interval gives the digits, and of two
  neighbours that both do, the nearer one.

  * `Binary64.digits` gives those digits with the place of the point;
  * `Binary64.Notation` holds the decisions of a format (which exponents are
    written positionally, how an exponent is spelled), and `text` writes a
    number with them;
  * `plain` is the format of every number this program prints.
-/
import RateIsolation.Number.Binary64

namespace RateIsolation.Binary64

/-- The distance in units between a number of that size and its neighbours. -/
def spacing (units : Nat) : Nat :=
  if units < Nat.pow 2 53 then 1 else Nat.pow 2 (units.log2 - 52)

/-- Twice a bound of the interval that rounds to `units`: the lower end. -/
def lowerEnd (units : Nat) : Nat :=
  let gap := spacing units
  -- below a power of two the neighbours are twice as close
  if gap > 1 ∧ units = gap * Nat.pow 2 52 then 2 * units - gap / 2 else 2 * units - gap

/-- Twice a bound of the interval that rounds to `units`: the upper end. -/
def upperEnd (units : Nat) : Nat := 2 * units + spacing units

/-- Whether the decimal `value / scale` (in units) rounds to `units`. -/
def readsBack (units value scale : Nat) : Bool :=
  let low := lowerEnd units * scale
  let high := upperEnd units * scale
  if (units / spacing units) % 2 = 0 then low ≤ 2 * value && 2 * value ≤ high
  else low < 2 * value && 2 * value < high

/-- The place of the leading digit: the least `k` with `num / den < 10 ^ k`. -/
def leadingPlace (num den : Nat) : Int :=
  if den ≤ num then ((Nat.toDigits 10 (num / den)).length : Int)
  else
    -- the leading zeros after the point, counted on the inverse ratio
    let zeros := (Nat.toDigits 10 (den / num)).length - 1
    if den ≤ num * Nat.pow 10 zeros then 1 - (zeros : Int) else -(zeros : Int)

/-- The neighbour on the grid of `10 ^ grid` that reads back, if one does. -/
def onGrid (units : Nat) (grid : Int) : Option Nat :=
  -- `num / den` is the value divided by the grid's step
  let up := if 0 ≤ grid then Nat.pow 10 grid.toNat else 1
  let down := if 0 ≤ grid then 1 else Nat.pow 10 (-grid).toNat
  let num := units * down
  let den := unitsPerOne * up
  let low := num / den
  let rest := num % den
  -- a decimal `d` on the grid is `d * den / down` units
  let hit (d : Nat) : Bool := readsBack units (d * den) down
  match hit low, hit (low + 1) with
  | true, true =>
    if 2 * rest < den then some low
    else if den < 2 * rest then some (low + 1)
    else some (low + low % 2)
  | true, false => some low
  | false, true => some (low + 1)
  | false, false => none

/-- Try ever more digits, `tries` times, from `count` digits on. -/
def searchDigits (units : Nat) (place : Int) : Nat → Nat → Nat × Int
  | _, 0 => (0, 0)
  | count, tries + 1 =>
    let grid := place - count
    match onGrid units grid with
    | some d => (d, grid)
    | none => searchDigits units place (count + 1) tries

/-- Remove the zeros at the end of `digits`, at most `tries` of them. -/
def dropZeros : Nat → Nat → Int → Nat × Int
  | 0, d, e => (d, e)
  | tries + 1, d, e => if d % 10 = 0 ∧ d ≠ 0 then dropZeros tries (d / 10) (e + 1) else (d, e)

/-- The shortest decimal `digits * 10 ^ exponent` of a positive number. -/
def shortest (units : Nat) : Nat × Int :=
  let place := leadingPlace units unitsPerOne
  let found := searchDigits units place 1 17
  dropZeros 20 found.1 found.2

/-- The decisions of a text format for numbers. -/
structure Notation where
  /-- Positional for a point at least that far right of the first digit. -/
  leastPoint : Int
  /-- Positional for a point at most that far right of the first digit. -/
  greatestPoint : Int
  /-- The text after a whole number that is written positionally. -/
  wholeSuffix : String
  /-- The least number of digits of an exponent. -/
  exponentWidth : Nat
  /-- The text of infinity, without a sign. -/
  infinity : String
  /-- The text of what is not a number. -/
  notANumber : String

/-- Positional from `0.0001` to below `10 ^ 16`, else an exponent of two digits or more. -/
def plain : Notation where
  leastPoint := -3
  greatestPoint := 16
  wholeSuffix := ".0"
  exponentWidth := 2
  infinity := "inf"
  notANumber := "nan"

/-- The digits of a whole number. -/
def decimalDigits (n : Nat) : List Char := Nat.toDigits 10 n

/-- An exponent with its sign, filled with zeros to the width. -/
def exponentText (width : Nat) (e : Int) : List Char :=
  let ds := decimalDigits e.natAbs
  (if e < 0 then '-' else '+') :: (List.replicate (width - ds.length) '0' ++ ds)

/-- The digits `ds` with the point `point` places to the right of the first digit's left edge. -/
def Notation.place (f : Notation) (ds : List Char) (point : Int) : List Char :=
  if f.leastPoint ≤ point ∧ point ≤ f.greatestPoint then
    if point ≤ 0 then '0' :: '.' :: (List.replicate (-point).toNat '0' ++ ds)
    else if (ds.length : Int) ≤ point then
      ds ++ List.replicate (point.toNat - ds.length) '0' ++ f.wholeSuffix.toList
    else ds.take point.toNat ++ '.' :: ds.drop point.toNat
  else
    let fraction := match ds.drop 1 with
      | [] => []
      | rest => '.' :: rest
    ds.take 1 ++ fraction ++ 'e' :: exponentText f.exponentWidth (point - 1)

/-- The text of a number. -/
def Notation.text (f : Notation) : Binary64 → String
  | .finite s u =>
    let sign := if s then ['-'] else []
    if u = 0 then String.ofList (sign ++ '0' :: f.wholeSuffix.toList)
    else
      let (d, e) := shortest u
      let ds := decimalDigits d
      String.ofList (sign ++ f.place ds ((ds.length : Int) + e))
  | .infinite s => if s then "-" ++ f.infinity else f.infinity
  | .nan => f.notANumber

/-- The text of a number as this program prints it. -/
def toText (x : Binary64) : String := plain.text x

end RateIsolation.Binary64
