import VersionedStore.Data.Binary64

/-!
# The fewest digits that read back

Every number of the format is the rounding of an interval of reals: the numbers nearer to it
than to its neighbours, the two middles included if its significand is even. Of the decimals
in that interval the shortest is the one with the fewest digits, and of several such the one
nearest to the number; of two equally near the one with the even last digit.

## Main definitions

* `Binary64.Shortest.Interval` — the interval, in multiples of a power of two
* `Binary64.shortest` — the digits and the power of ten of the shortest decimal
-/

namespace VersionedStore.Binary64

namespace Shortest

/-- The reals that round to a number: `low * 2 ^ scale` to `high * 2 ^ scale`, with the number
itself at `middle * 2 ^ scale`. -/
structure Interval where
  /-- The lower end. -/
  low : Nat
  /-- The number. -/
  middle : Nat
  /-- The upper end. -/
  high : Nat
  /-- The power of two that the three are multiples of. -/
  scale : Int
  /-- Whether the ends belong to it. -/
  closed : Bool

/-- The interval of `m * 2 ^ e`. Below a power of two the neighbour is at half the distance. -/
def interval (m : Nat) (e : Int) : Interval where
  low := if m = Nat.pow 2 52 ∧ minExponent < e then 4 * m - 1 else 4 * m - 2
  middle := 4 * m
  high := 4 * m + 2
  scale := e - 2
  closed := m % 2 == 0

/-- The two factors that bring `x * 2 ^ scale` and `d * 10 ^ power` to whole numbers. -/
def factors (scale power : Int) : Nat × Nat :=
  (Nat.pow 2 scale.toNat * Nat.pow 10 (-power).toNat,
    Nat.pow 10 power.toNat * Nat.pow 2 (-scale).toNat)

/-- Whether `d * 10 ^ power` lies in the interval. -/
def Interval.contains (i : Interval) (d : Nat) (power : Int) : Bool :=
  let f := factors i.scale power
  if i.closed then i.low * f.1 ≤ d * f.2 && d * f.2 ≤ i.high * f.1
  else i.low * f.1 < d * f.2 && d * f.2 < i.high * f.1

/-- The power of ten of the leading digit of `x * 2 ^ scale`. -/
def leadingPower (x : Nat) (scale : Int) : Int :=
  -- The factor is the logarithm of two to the base ten, which tells the power up to one.
  let guess : Int := ((x.log2 : Int) + scale) * 30103 / 100000
  let above (p : Int) : Bool :=
    let f := factors scale p
    f.2 ≤ x * f.1
  if above (guess + 1) then guess + 1 else if above guess then guess else guess - 1

/-- The decimal of the grid `10 ^ power` in the interval that is nearest to its middle. -/
def nearest? (i : Interval) (power : Int) : Option Nat :=
  let f := factors i.scale power
  let below := i.middle * f.1 / f.2
  -- Of the grid only the two decimals next to the middle can be the nearest.
  let above := below + 1
  let toBelow := i.middle * f.1 - below * f.2
  let toAbove := above * f.2 - i.middle * f.1
  match i.contains below power, i.contains above power with
  | true, false => some below
  | false, true => some above
  | false, false => none
  | true, true =>
    if toBelow < toAbove then some below
    else if toAbove < toBelow then some above
    else if below % 2 = 0 then some below else some above

/-- The first of the grids of `digits`, `digits + 1`, … digits that has a decimal in the
interval, and that decimal. -/
def search (i : Interval) (leading : Int) : (fuel digits : Nat) → Nat × Int
  | 0, _ => (0, 0)
  | fuel + 1, digits =>
    let power := leading - (digits : Int) + 1
    match nearest? i power with
    | some d => (d, power)
    | none => search i leading fuel (digits + 1)

/-- Drops the zeros at the end of a decimal. -/
def dropZeros (d : Nat) (power : Int) : Nat × Int :=
  if h : d ≠ 0 ∧ d % 10 = 0 then dropZeros (d / 10) (power + 1) else (d, power)
termination_by d
decreasing_by omega

end Shortest

/-- The digits and the power of ten of the shortest decimal that reads back as `x`. Seventeen
digits always suffice. -/
def shortest (x : Binary64) : Nat × Int :=
  if x.significand = 0 then (0, 0)
  else
    let i := Shortest.interval x.significand x.exponent
    let found := Shortest.search i (Shortest.leadingPower i.middle i.scale) 17 1
    Shortest.dropZeros found.1 found.2

end VersionedStore.Binary64
