/-
  Binary floating-point numbers of 53 significant bits, as exact values.

  A finite number is a sign and a whole number of the smallest positive
  number, `2 ^ (-1074)`, so that comparing two numbers is comparing two
  integers and every operation is one exact ratio followed by one rounding.

  * `nearestUnits` rounds a ratio to the nearest number with 53 significant
    bits, a tie going to the even one; `ofRatio` adds the sign and the
    overflow to infinity;
  * `ofInt?` is the conversion of an integer, which fails where a number
    would have to be infinite (`ofInt?_eq_none_iff`);
  * `times` and `dividedBy` multiply by and divide by a whole number, and
    `nearestInt?` gives the nearest integer, a tie going to the even one.
-/

namespace RateIsolation

/-- The quotient rounded to the nearest whole number, a half to the even one. -/
def roundQuotient (num den : Nat) : Nat :=
  let low := num / den
  let rest := num % den
  if 2 * rest < den then low
  else if den < 2 * rest then low + 1
  else low + low % 2

/-- A binary floating-point number. -/
inductive Binary64 where
  /-- `units` times `2 ^ (-1074)`, negated if `negative`; zero has a sign. -/
  | finite (negative : Bool) (units : Nat)
  /-- The infinity of a sign. -/
  | infinite (negative : Bool)
  /-- Not a number. -/
  | nan
deriving DecidableEq, Repr, Inhabited

namespace Binary64

/-- The number of units in one. -/
def unitsPerOne : Nat := Nat.pow 2 1074

/-- The first count of units that is too large for a finite number. -/
def overflowUnits : Nat := Nat.pow 2 2098

/-- The ratio rounded to a whole number with at most 53 significant bits. -/
def nearestUnits (num den : Nat) : Nat :=
  let floor := num / den
  if floor < Nat.pow 2 53 then roundQuotient num den
  else
    let shift := floor.log2 - 52
    roundQuotient num (den * Nat.pow 2 shift) * Nat.pow 2 shift

/-- The number nearest to a ratio of units, infinite past the largest finite one. -/
def ofUnitRatio (negative : Bool) (num den : Nat) : Binary64 :=
  let units := nearestUnits num den
  if units < overflowUnits then .finite negative units else .infinite negative

/-- The number nearest to a ratio. -/
def ofRatio (negative : Bool) (num den : Nat) : Binary64 :=
  ofUnitRatio negative (num * unitsPerOne) den

/-- The number nearest to an integer, unless that is infinite. -/
def ofInt? (n : Int) : Option Binary64 :=
  let units := nearestUnits (n.natAbs * unitsPerOne) 1
  if units < overflowUnits then some (.finite (n < 0) units) else none

/-- The number nearest to `digits * 10 ^ exponent`. -/
def ofDecimal (negative : Bool) (digits : Nat) (exponent : Int) : Binary64 :=
  if digits = 0 then .finite negative 0
  else
    let places : Int := exponent + ((Nat.toDigits 10 digits).length : Int)
    if places > 400 then .infinite negative
    else if places < -400 then .finite negative 0
    else if 0 ≤ exponent then ofRatio negative (digits * Nat.pow 10 exponent.toNat) 1
    else ofRatio negative digits (Nat.pow 10 (-exponent).toNat)

/-- The product with a whole number. -/
def times (k : Nat) : Binary64 → Binary64
  | .finite s u => ofUnitRatio s (u * k) 1
  | .infinite s => if k = 0 then .nan else .infinite s
  | .nan => .nan

/-- The quotient by a whole number other than zero. -/
def dividedBy (k : Nat) : Binary64 → Binary64
  | .finite s u => ofUnitRatio s u k
  | .infinite s => .infinite s
  | .nan => .nan

/-- Greater than zero; not a number is not. -/
def isPositive : Binary64 → Bool
  | .finite s u => !s && decide (0 < u)
  | .infinite s => !s
  | .nan => false

/-- At most zero; not a number is not. -/
def isAtMostZero : Binary64 → Bool
  | .finite s u => s || u == 0
  | .infinite s => s
  | .nan => false

/-- The nearest integer, a half to the even one; none for what is not finite. -/
def nearestInt? : Binary64 → Option Int
  | .finite s u =>
    let n : Int := roundQuotient u unitsPerOne
    some (if s then -n else n)
  | _ => none

/-- The integer that a number is, if it is one. -/
def toInt? : Binary64 → Option Int
  | .finite s u =>
    if u % unitsPerOne = 0 then
      let n : Int := u / unitsPerOne
      some (if s then -n else n)
    else none
  | _ => none

/-! ## Small facts -/

theorem ofInt?_eq_none_iff (n : Int) :
    ofInt? n = none ↔ overflowUnits ≤ nearestUnits (n.natAbs * unitsPerOne) 1 := by
  simp only [ofInt?, ite_eq_right_iff, reduceCtorEq, imp_false, Nat.not_lt]

/-- Only for not a number do the two comparisons with zero both fail. -/
theorem isPositive_or_isAtMostZero {x : Binary64} (h : x ≠ .nan) :
    x.isPositive = !x.isAtMostZero := by
  cases x with
  | finite s u => cases s <;> cases u <;> simp [isPositive, isAtMostZero]
  | infinite s => cases s <;> rfl
  | nan => exact absurd rfl h

end Binary64

end RateIsolation
