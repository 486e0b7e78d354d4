import VersionedStore.Data.Binary64.Shortest
import VersionedStore.Json.Text

/-!
# JSON numbers

A number is a whole number from zero on, a whole number below zero, or a binary floating
point number. The three kinds never meet: `1` and `1.0` are different numbers.

## Main definitions

* `Json.Number` — the three kinds
* `Json.Number.ofLiteral?` — the number that a literal stands for
* `Json.Number.toLiteral` — its written form
* `Json.Number.same` — equality; floats compare by value
-/

namespace VersionedStore.Json

/-- A number. -/
inductive Number
  /-- A whole number from zero on. -/
  | unsigned (n : UInt64)
  /-- A whole number below zero, by its magnitude: from 1 to 2⁶³. -/
  | negative (magnitude : UInt64)
  /-- A floating point number. -/
  | float (x : Binary64)
deriving DecidableEq, Inhabited

namespace Literal

/-- Reads digits onto `n` as long as it stays below 2⁶⁴; also the digits that are left. -/
def accumulate (n : Nat) : List Digit → Nat × List Digit
  | [] => (n, [])
  | d :: ds => if n * 10 + d.val < Nat.pow 2 64 then accumulate (n * 10 + d.val) ds else (n, d :: ds)

def writtenExponent (l : Literal) : Int :=
  match l.exponent with
  | none => 0
  | some e => if e.sign = .minus then -(Decimal.value e.digits : Int) else Decimal.value e.digits

/-- The literal as a significand below 2⁶⁴ and a power of ten. Digits before the point that no
longer fit count as zeros; digits after the point that no longer fit are passed over. -/
def scientific (l : Literal) : Nat × Int :=
  let whole := accumulate 0 l.whole
  let fractionDigits := l.fraction.getD []
  let fraction := accumulate whole.1 fractionDigits
  let taken := fractionDigits.length - fraction.2.length
  (fraction.1, (whole.2.length : Int) - taken + l.writtenExponent)

/-- The whole number that a literal without point and exponent stands for, if it is below 2⁶⁴
without its sign. -/
def whole? (l : Literal) : Option Nat :=
  match l.fraction, l.exponent, accumulate 0 l.whole with
  | none, none, (n, []) => some n
  | _, _, _ => none

end Literal

namespace Number

/-- The floating point number of a literal; `none` if it is out of range. -/
def floatOf? (l : Literal) : Option Number :=
  (Binary64.ofDecimal? l.negative l.scientific.1 l.scientific.2).map float

/-- The number that a literal stands for. Whole numbers out of range are floats, and so is the
negative zero; a float out of range is none. -/
def ofLiteral? (l : Literal) : Option Number :=
  match l.whole? with
  | none => floatOf? l
  | some n =>
    if l.negative then
      if n = 0 ∨ Nat.pow 2 63 < n then floatOf? l else some (negative (UInt64.ofNat n))
    else some (unsigned (UInt64.ofNat n))

/-- The least power of ten of a leading digit that is written without exponent. -/
def leastPlain : Int := -5

/-- The greatest power of ten of a leading digit that is written without exponent. -/
def greatestPlain : Int := 15

/-- The written form of `ds * 10 ^ power` without exponent; there is at least one digit on
either side of the point. -/
def plainLiteral (negative : Bool) (ds : List Digit) (power : Int) : Literal :=
  let zeros (n : Int) : List Digit := List.replicate n.toNat Digit.zero
  let point := (ds.length : Int) + power
  if 0 ≤ power then ⟨negative, ds ++ zeros power, some [Digit.zero], none⟩
  else if 0 < point then ⟨negative, ds.take point.toNat, some (ds.drop point.toNat), none⟩
  else ⟨negative, [Digit.zero], some (zeros (-point) ++ ds), none⟩

/-- The written form of `ds * 10 ^ power` with one digit before the point and an exponent. -/
def exponentLiteral (negative : Bool) (ds : List Digit) (power : Int) : Literal :=
  let leading := (ds.length : Int) + power - 1
  { negative
    whole := ds.take 1
    fraction := if ds.length ≤ 1 then none else some (ds.drop 1)
    exponent := some
      { sign := if 0 ≤ leading then .plus else .minus
        digits := Decimal.digits leading.natAbs } }

/-- The written form of a floating point number: the fewest digits that read back, without
exponent from 10⁻⁵ to below 10¹⁶. -/
def floatLiteral (x : Binary64) : Literal :=
  let ds := Decimal.digits x.shortest.1
  let power := x.shortest.2
  let leading := (ds.length : Int) + power - 1
  if leastPlain ≤ leading ∧ leading ≤ greatestPlain then plainLiteral x.negative ds power
  else exponentLiteral x.negative ds power

/-- The written form of a number. -/
def toLiteral : Number → Literal
  | unsigned n => ⟨false, Decimal.digits n.toNat, none, none⟩
  | negative m => ⟨true, Decimal.digits m.toNat, none, none⟩
  | float x => floatLiteral x

/-- Equality of numbers: of one kind and one value. -/
def same : Number → Number → Bool
  | unsigned m, unsigned n => m == n
  | negative m, negative n => m == n
  | float x, float y => x.sameValue y
  | _, _ => false

end Number

end VersionedStore.Json
