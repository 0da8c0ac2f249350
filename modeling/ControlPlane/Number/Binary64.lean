/-
Decimals and binary64.

`Decimal.nearest?` is the binary64 value nearest to a decimal, a tie going to the even significand;
`Binary64.shortest` is the decimal with the fewest digits that reads back as a given value. Both
work on natural numbers only, so every step is exact.
-/

namespace ControlPlane
namespace Number

/-- The value `digits * 10 ^ exponent`. -/
structure Decimal where
  digits : Nat
  exponent : Int
  deriving DecidableEq, Repr, Inhabited

/-- The value `significand * 2 ^ exponent`. -/
structure Binary64 where
  significand : Nat
  exponent : Int
  deriving DecidableEq, Repr, Inhabited

namespace Binary64

/-- Exponent of the smallest positive value. -/
def minExponent : Int := -1074

/-- Exponent of the largest finite value. -/
def maxExponent : Int := 971

end Binary64

/-- The quotient rounded to the nearest natural number, a tie going to the even one. -/
def roundDiv (num den : Nat) : Nat :=
  let quotient := num / den
  let twice := 2 * (num % den)
  if twice > den || (twice == den && quotient % 2 == 1) then quotient + 1 else quotient

/-- `num / den` over `2 ^ exponent`, as a quotient of natural numbers. -/
def scaleBinary (num den : Nat) (exponent : Int) : Nat × Nat :=
  if exponent < 0 then (num * Nat.pow 2 exponent.natAbs, den)
  else (num, den * Nat.pow 2 exponent.toNat)

/-- `num / den` over `10 ^ exponent`, as a quotient of natural numbers. -/
def scaleDecimal (num den : Nat) (exponent : Int) : Nat × Nat :=
  if exponent < 0 then (num * Nat.pow 10 exponent.natAbs, den)
  else (num, den * Nat.pow 10 exponent.toNat)

namespace Decimal

def zero : Decimal := ⟨0, 0⟩

/-- The same value without trailing zeros among its digits. -/
def trim (d : Decimal) : Decimal :=
  if h : d.digits ≠ 0 ∧ d.digits % 10 = 0 then
    trim ⟨d.digits / 10, d.exponent + 1⟩
  else if d.digits = 0 then zero else d
termination_by d.digits
decreasing_by omega

/-- How many digits stand before the decimal point in positional notation. -/
def scale (d : Decimal) : Int := (Nat.repr d.digits).length + d.exponent

/-- The value as a quotient of natural numbers. -/
def ratio (d : Decimal) : Nat × Nat :=
  scaleDecimal d.digits 1 (-d.exponent)

/-- The nearest binary64 value of the positive quotient `num / den`; `none` beyond the largest. -/
def nearestRatio? (num den : Nat) : Option Binary64 :=
  let log : Int := (Nat.log2 num : Int) - (Nat.log2 den : Int)
  let low := max (log - 53) Binary64.minExponent
  let (n, d) := scaleBinary num den low
  let exponent := if n / d ≥ Nat.pow 2 53 then low + 1 else low
  let (n, d) := scaleBinary num den exponent
  let significand := roundDiv n d
  let value : Binary64 :=
    if significand = Nat.pow 2 53 then ⟨Nat.pow 2 52, exponent + 1⟩ else ⟨significand, exponent⟩
  if value.exponent > Binary64.maxExponent then none else some value

/-- The nearest binary64 value; `none` beyond the largest. Far out of range on either side the
powers of ten are never computed. -/
def nearest? (d : Decimal) : Option Binary64 :=
  if d.digits = 0 || d.scale < -330 then some ⟨0, 0⟩
  else if d.scale > 310 then none
  else
    let (num, den) := d.ratio
    nearestRatio? num den

end Decimal

namespace Binary64

/-- The product of two values, rounded; `none` beyond the largest. -/
def times? (a b : Binary64) : Option Binary64 :=
  let (num, den) := scaleBinary (a.significand * b.significand) 1 (-(a.exponent + b.exponent))
  Decimal.nearestRatio? num den

/-- How many digits stand before the decimal point of a positive value. -/
def decimalScale (b : Binary64) : Int :=
  let (num, den) := scaleBinary (b.significand * Nat.pow 10 400) 1 (-b.exponent)
  ((Nat.repr (num / den)).length : Int) - 400

/-- Four times the significand less the distance to the lower end of the values that round to it.
Below a power of two the neighbour is half as far. -/
def lowerEnd (b : Binary64) : Nat :=
  if b.significand = Nat.pow 2 52 ∧ b.exponent > minExponent then 4 * b.significand - 1
  else 4 * b.significand - 2

def upperEnd (b : Binary64) : Nat := 4 * b.significand + 2

/-- Whether a decimal rounds to the value: it lies between the ends, which belong to an even
significand only. -/
def roundsFrom (b : Binary64) (d : Decimal) : Bool :=
  let (num, den) := d.ratio
  let (num, den) := scaleBinary num den (b.exponent - 2)
  if b.significand % 2 = 0 then b.lowerEnd * den ≤ num && num ≤ b.upperEnd * den
  else b.lowerEnd * den < num && num < b.upperEnd * den

/-- The decimal with `count` digits nearest to the value among those that read back as it. -/
def shortestOf? (b : Binary64) (scale : Int) (count : Nat) : Option Decimal :=
  let exponent := scale - count
  let (num, den) := scaleBinary b.significand 1 (-b.exponent)
  let (num, den) := scaleDecimal num den exponent
  let below := num / den
  let lower : Decimal := ⟨below, exponent⟩
  let upper : Decimal := ⟨below + 1, exponent⟩
  match b.roundsFrom lower, b.roundsFrom upper with
  | true, true => some (if roundDiv num den = below then lower else upper)
  | true, false => some lower
  | false, true => some upper
  | false, false => none

/-- The decimal with the fewest digits that reads back as the value. Seventeen digits always do. -/
def shortest (b : Binary64) : Decimal :=
  if b.significand = 0 then Decimal.zero
  else
    let scale := b.decimalScale
    (((List.range 17).findSome? fun n => b.shortestOf? scale (n + 1)).getD Decimal.zero).trim

end Binary64
end Number
end ControlPlane
