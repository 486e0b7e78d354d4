import VersionedStore.Data.Decimal

/-!
# Binary floating point in 64 bits

A finite number of the 64-bit binary format is `± significand * 2 ^ exponent` with a
significand of at most 53 bits and an exponent from -1074 to 971. Products and quotients
are exact ratios that are rounded once, to the nearest number of the format and to the even
significand of two equally near ones.

## Main definitions

* `Binary64` — sign, significand and exponent in normal form
* `Binary64.roundRatio` — the number of the format nearest to a ratio
* `Binary64.ofDecimal?` — a significand times a power of ten, by one product or quotient with
  a rounded power of ten (and before it by quotients with 10³⁰⁸ where the power is smaller)
* `Binary64.add?`, `Binary64.mul?`, `Binary64.div` — sums, products and quotients
* `Binary64.sameValue` — equality of values; the two zeros are equal
-/

namespace VersionedStore

/-- A finite number `± significand * 2 ^ exponent`. -/
structure Binary64 where
  /-- Whether the sign is minus; also zero has a sign. -/
  negative : Bool
  /-- Below 2⁵³, and at least 2⁵² unless the exponent is the least one. -/
  significand : Nat
  /-- From -1074 to 971. -/
  exponent : Int
deriving DecidableEq, Inhabited

namespace Binary64

/-- The least exponent of the format. -/
def minExponent : Int := -1074

/-- The greatest exponent of the format. -/
def maxExponent : Int := 971

/-- Zero. -/
def zero : Binary64 := ⟨false, 0, minExponent⟩

/-- The quotient rounded to the nearest whole number, to the even one of two equally near. -/
def divToEven (n d : Nat) : Nat :=
  let q := n / d
  let twice := 2 * (n % d)
  if twice < d then q
  else if d < twice then q + 1
  else if q % 2 = 0 then q else q + 1

/-- The ratio of two numbers divided by a power of two, as a ratio. -/
def unscale (n d : Nat) (exponent : Int) : Nat × Nat :=
  (n * Nat.pow 2 (-exponent).toNat, d * Nat.pow 2 exponent.toNat)

/-- The exponent at which the significand of `n / d` has 53 bits, but not below the least. -/
def exponentOf (n d : Nat) : Int :=
  -- The lengths of the two numbers tell the exponent up to one.
  let guess : Int := (n.log2 : Int) - (d.log2 : Int) - 52
  let scaled := unscale n d guess
  max minExponent (if scaled.1 / scaled.2 < Nat.pow 2 52 then guess - 1 else guess)

/-- The number of the format nearest to `± n / d`; `none` if that is beyond its range. -/
def roundRatio (negative : Bool) (n d : Nat) : Option Binary64 :=
  if n = 0 then some { zero with negative }
  else
    let exponent := exponentOf n d
    let scaled := unscale n d exponent
    let significand := divToEven scaled.1 scaled.2
    -- Rounding up may take the significand to the next power of two.
    let carried : Binary64 :=
      if significand = Nat.pow 2 53 then ⟨negative, Nat.pow 2 52, exponent + 1⟩
      else ⟨negative, significand, exponent⟩
    if carried.exponent ≤ maxExponent then some carried else none

/-- The ratio `significand * 2 ^ exponent`, its sign left out. -/
def ratio (x : Binary64) : Nat × Nat :=
  (x.significand * Nat.pow 2 x.exponent.toNat, Nat.pow 2 (-x.exponent).toNat)

/-- The number of the format nearest to a whole number; zero if that is beyond its range. -/
def ofNat (n : Nat) : Binary64 := (roundRatio false n 1).getD zero

/-- The rounded power of ten. Up to 10³⁰⁸ there is one. -/
def powerOfTen (k : Nat) : Binary64 := ofNat (Nat.pow 10 k)

/-- The multiple of `2 ^ exponent` that a number is, for an exponent not above its own. -/
def multiple (x : Binary64) (exponent : Int) : Int :=
  let m : Int := (x.significand * Nat.pow 2 (x.exponent - exponent).toNat : Nat)
  if x.negative then -m else m

/-- The rounded sum; a sum of zero is negative if both numbers are. -/
def add? (x y : Binary64) : Option Binary64 :=
  let exponent := min x.exponent y.exponent
  let sum := x.multiple exponent + y.multiple exponent
  let negative := if sum = 0 then x.negative && y.negative else sum < 0
  roundRatio negative (sum.natAbs * Nat.pow 2 exponent.toNat) (Nat.pow 2 (-exponent).toNat)

/-- The rounded product, its sign that of the first factor. -/
def mul? (x y : Binary64) : Option Binary64 :=
  roundRatio x.negative (x.ratio.1 * y.ratio.1) (x.ratio.2 * y.ratio.2)

/-- The rounded quotient, its sign that of the dividend. -/
def div (x y : Binary64) : Binary64 :=
  (roundRatio x.negative (x.ratio.1 * y.ratio.2) (x.ratio.2 * y.ratio.1)).getD zero

/-- `x` times ten to the `power`; `none` if that is beyond the range. -/
def scaleByTen (x : Binary64) (power : Int) : Option Binary64 :=
  if power < -308 then
    if x.significand = 0 then some x
    -- The least powers of ten are not in the format, so it takes several quotients.
    else scaleByTen (x.div (powerOfTen 308)) (power + 308)
  else if power < 0 then some (x.div (powerOfTen (-power).toNat))
  else if power ≤ 308 then x.mul? (powerOfTen power.toNat)
  else if x.significand = 0 then some x
  else none
termination_by (-power).toNat
decreasing_by omega

/-- The number `± significand * 10 ^ power`, computed in two roundings or more: of the
significand, and of each product or quotient with a power of ten. -/
def ofDecimal? (negative : Bool) (significand : Nat) (power : Int) : Option Binary64 :=
  match roundRatio negative significand 1 with
  | none => none
  | some x => x.scaleByTen power

/-- Equality of values: the two zeros are equal. -/
def sameValue (x y : Binary64) : Bool :=
  x.significand == y.significand && x.exponent == y.exponent &&
    (x.negative == y.negative || x.significand == 0)

end Binary64

end VersionedStore
