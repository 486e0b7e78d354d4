import VersionedStore.Data.Binary64

/-!
# A fixed number of places

A number is written with a given number of digits after the point. It is rounded once, from
its exact value; a half goes to the even digit.

## Main definitions

* `Binary64.fixed` — the text
-/

namespace VersionedStore.Binary64

/-- The number of units of the last place that is nearest, its sign left out. -/
def fixedUnits (places : Nat) (x : Binary64) : Nat :=
  divToEven (x.ratio.1 * Nat.pow 10 places) x.ratio.2

/-- Digits with a point before the last `places` of them. -/
def withPoint (places : Nat) (digits : List Char) : List Char :=
  let whole := digits.length - places
  if places = 0 then digits else digits.take whole ++ '.' :: digits.drop whole

/-- A number with a given number of places. -/
def fixed (places : Nat) (x : Binary64) : String :=
  let digits := (Decimal.padded (places + 1) (x.fixedUnits places)).toList
  (if x.negative then "-" else "") ++ String.ofList (withPoint places digits)

end VersionedStore.Binary64
