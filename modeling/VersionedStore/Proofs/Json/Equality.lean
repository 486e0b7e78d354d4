import VersionedStore.Json.Value

/-!
# Equality of values

Two values are the same for a query if they are equal but for the signs of floating point zeros:
zero is equal to the negative zero, wherever it stands in a value, and all else is compared as it
is, numbers by kind and value.

## Main definitions

* `Json.Value.unsignedZeros` — a value without the signs of its zeros
* `Json.Value.Equal` — equality but for these signs

## Main results

* `Json.Value.same_iff` — values are the same just if they are equal but for these signs
-/

namespace VersionedStore

/-- A number without its sign, if it is zero. -/
def Binary64.unsignedZero (x : Binary64) : Binary64 :=
  { x with negative := if x.significand = 0 then false else x.negative }

theorem Binary64.sameValue_iff (x y : Binary64) :
    x.sameValue y = true ↔ x.unsignedZero = y.unsignedZero := by
  simp only [sameValue, unsignedZero, Binary64.mk.injEq, Bool.and_eq_true, Bool.or_eq_true,
    beq_iff_eq]
  by_cases zero : x.significand = 0
  · grind
  · grind

namespace Json

namespace Number

/-- A number without its sign, if it is a floating point zero. -/
def unsignedZero : Number → Number
  | float x => float x.unsignedZero
  | n => n

theorem same_iff (m n : Number) : m.same n = true ↔ m.unsignedZero = n.unsignedZero := by
  cases m <;> cases n <;> simp [same, unsignedZero, Binary64.sameValue_iff]

end Number

namespace Value

mutual

/-- A value without the signs of its floating point zeros. -/
def unsignedZeros : Value → Value
  | number n => number n.unsignedZero
  | array elements => array (elementsUnsignedZeros elements)
  | object members => object (membersUnsignedZeros members)
  | v => v

/-- Elements without the signs of their floating point zeros. -/
def elementsUnsignedZeros : List Value → List Value
  | [] => []
  | v :: vs => v.unsignedZeros :: elementsUnsignedZeros vs

/-- Members without the signs of their floating point zeros. -/
def membersUnsignedZeros : List (String × Value) → List (String × Value)
  | [] => []
  | (k, v) :: ms => (k, v.unsignedZeros) :: membersUnsignedZeros ms

end

/-- Equality of values, but for the signs of floating point zeros. -/
def Equal (v w : Value) : Prop := v.unsignedZeros = w.unsignedZeros

mutual

private theorem same_iff_unsignedZeros :
    ∀ v w : Value, v.same w = true ↔ v.unsignedZeros = w.unsignedZeros
  | null, w => by cases w <;> simp [same, unsignedZeros]
  | bool _, w => by cases w <;> simp [same, unsignedZeros]
  | number m, w => by cases w <;> simp [same, unsignedZeros, Number.same_iff]
  | string _, w => by cases w <;> simp [same, unsignedZeros]
  | array xs, w => by cases w <;> simp [same, unsignedZeros, sameElements_iff xs]
  | object xs, w => by cases w <;> simp [same, unsignedZeros, sameMembers_iff xs]

private theorem sameElements_iff : ∀ xs ys : List Value, sameElements xs ys = true ↔
    elementsUnsignedZeros xs = elementsUnsignedZeros ys
  | [], ys => by cases ys <;> simp [sameElements, elementsUnsignedZeros]
  | x :: xs, ys => by
    cases ys <;>
      simp [sameElements, elementsUnsignedZeros, same_iff_unsignedZeros x, sameElements_iff xs]

private theorem sameMembers_iff : ∀ xs ys : List (String × Value), sameMembers xs ys = true ↔
    membersUnsignedZeros xs = membersUnsignedZeros ys
  | [], ys => by cases ys <;> simp [sameMembers, membersUnsignedZeros]
  | (j, x) :: xs, ys => by
    cases ys <;>
      simp [sameMembers, membersUnsignedZeros, same_iff_unsignedZeros x, sameMembers_iff xs,
        and_assoc]

end

theorem same_iff {v w : Value} : v.same w = true ↔ v.Equal w := same_iff_unsignedZeros v w

/-- Only arrays are equal to arrays. -/
theorem Equal.array_iff {v w : Value} (h : v.Equal w) :
    (∃ es, v = array es) ↔ ∃ es, w = array es := by
  cases v <;> cases w <;> simp_all [Equal, unsignedZeros]

end Value

end Json

end VersionedStore
