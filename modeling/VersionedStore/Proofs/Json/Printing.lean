import Mathlib.Tactic.SplitIfs
import VersionedStore.Json.Value
import VersionedStore.Proofs.Data.Utf8
import VersionedStore.Proofs.Json.RoundTrip

/-!
# Printed values

The text of every value is well formed: strings are escaped, whole numbers have no superfluous
zeros, and the fewest digits of a floating point number start with none either. So the octets
of a value are always a JSON text on one line, and strings and whole numbers stand for
themselves when they are read.

## Main results

* `Symbol.meaning?_ofString` — the pieces of a text stand for it
* `Number.ofLiteral?_digits` — the digits of a whole number stand for it
* `Value.wellFormed_toText` — the text of a value is well formed
* `Value.parse?_write` — reading the octets of a value is reading its text
-/

namespace VersionedStore

/-! ## Strings -/

namespace Json.Symbol

private theorem encodeChar_of_lt {b : UInt8} (h : b < 0x20) :
    isSurrogate b.toUInt16 = false ∧ Utf8.encodeChar (Char.ofNat b.toUInt16.toNat) = [b] := by
  have small : b.toNat < 0x20 := UInt8.lt_iff_toNat_lt.1 h
  have code : b.toUInt16.toNat = b.toNat := UInt8.toNat_toUInt16 b
  refine ⟨?_, ?_⟩
  · rw [isSurrogate, code, decide_eq_false (by omega), Bool.false_and]
  · rw [code, Utf8.encodeChar_ofNat (by omega)]

/-- The pieces of a text stand for it. -/
theorem meaning?_ofString (s : String) : meaning? (ofString s) = some s := by
  have octets (bs : Bytes) : octets? (bs.map fun b =>
      if b < 0x20 ∧ (shortEscapes.lookup b).isNone then unit b.toUInt16 else plain b) =
        some bs := by
    induction bs with
    | nil => rfl
    | cons b bs ih =>
      rw [List.map_cons]
      -- A control character without a short escape is a unit, which stands for one octet.
      split_ifs with h
      · obtain ⟨alone, single⟩ := encodeChar_of_lt h.1
        rw [octets?.eq_def]
        simp only [alone, ih, single]
        rfl
      · rw [octets?, ih]
        rfl
  rw [meaning?, ofString, octets]
  exact Utf8.decode?_encode s

end Json.Symbol

/-! ## Whole numbers -/

namespace Json

private theorem le_extend (n : Nat) (ds : List Digit) : n ≤ Decimal.extend n ds := by
  induction ds generalizing n with
  | nil => exact Nat.le_refl n
  | cons d ds ih =>
    have step : n * 10 + d.val ≤ Decimal.extend n (d :: ds) := ih (n * 10 + d.val)
    omega

/-- Digits that stand for a number below 2⁶⁴ are all taken. -/
theorem Literal.accumulate_of_lt {n : Nat} {ds : List Digit}
    (h : Decimal.extend n ds < Nat.pow 2 64) : accumulate n ds = (Decimal.extend n ds, []) := by
  induction ds generalizing n with
  | nil => rfl
  | cons d ds ih =>
    have fits : n * 10 + d.val < Nat.pow 2 64 := Nat.lt_of_le_of_lt (le_extend _ ds) h
    rw [accumulate, if_pos fits]
    exact ih h

private theorem Literal.whole?_digits (negative : Bool) {n : Nat} (h : n < Nat.pow 2 64) :
    (Literal.mk negative (Decimal.digits n) none none).whole? = some n := by
  have value : Decimal.extend 0 (Decimal.digits n) = n := Decimal.value_digits n
  have whole := accumulate_of_lt (show Decimal.extend 0 (Decimal.digits n) < _ by rwa [value])
  simp only [whole?, whole, value]

/-- The digits of a whole number stand for it. -/
theorem Number.ofLiteral?_digits (n : UInt64) :
    ofLiteral? ⟨false, Decimal.digits n.toNat, none, none⟩ = some (unsigned n) := by
  rw [ofLiteral?, Literal.whole?_digits false n.toNat_lt]
  simp

/-- The digits of a magnitude up to 2⁶³ and a sign stand for a number below zero. -/
theorem Number.ofLiteral?_negative_digits {m : UInt64} (least : 0 < m.toNat)
    (greatest : m.toNat ≤ Nat.pow 2 63) :
    ofLiteral? ⟨true, Decimal.digits m.toNat, none, none⟩ = some (negative m) := by
  have magnitude : ¬(m.toNat = 0 ∨ Nat.pow 2 63 < m.toNat) := by omega
  rw [ofLiteral?, Literal.whole?_digits true m.toNat_lt]
  simp only [↓reduceIte, if_neg magnitude, UInt64.ofNat_toNat]

end Json

/-! ## Floating point numbers -/

namespace Binary64

namespace Shortest

private theorem contains_pos {i : Interval} (hlow : 0 < i.low) {d : Nat} {power : Int}
    (h : i.contains d power = true) : 0 < d := by
  by_contra hd
  obtain rfl := Nat.eq_zero_of_not_pos hd
  have scaled : 0 < i.low * (factors i.scale power).1 := by
    refine Nat.mul_pos hlow (Nat.mul_pos ?_ ?_)
    · exact Nat.pow_pos (by decide)
    · exact Nat.pow_pos (by decide)
  unfold Interval.contains at h
  simp only [Nat.zero_mul] at h
  split at h <;> simp only [Bool.and_eq_true, decide_eq_true_eq] at h <;> omega

private theorem nearest?_pos {i : Interval} (hlow : 0 < i.low) {d : Nat} {power : Int}
    (h : nearest? i power = some d) : 0 < d := by
  unfold nearest? at h
  simp only at h
  split at h
  · next hb _ =>
    obtain rfl := Option.some.inj h
    exact contains_pos hlow hb
  · next _ ha =>
    obtain rfl := Option.some.inj h
    exact contains_pos hlow ha
  · simp at h
  · next hb ha =>
    split_ifs at h <;> obtain rfl := Option.some.inj h
    · exact contains_pos hlow hb
    · exact contains_pos hlow ha
    · exact contains_pos hlow hb
    · exact contains_pos hlow ha

private theorem search_pos {i : Interval} (hlow : 0 < i.low) (leading : Int) (fuel digits : Nat) :
    0 < (search i leading fuel digits).1 ∨ search i leading fuel digits = (0, 0) := by
  induction fuel generalizing digits with
  | zero => exact .inr rfl
  | succ fuel ih =>
    unfold search
    simp only
    -- One more digit is tried until a candidate lies in the interval.
    cases hd : nearest? i (leading - (digits : Int) + 1) with
    | none => exact ih (digits + 1)
    | some d => exact .inl (nearest?_pos hlow hd)

private theorem dropZeros_pos {d : Nat} (hd : 0 < d) (power : Int) :
    0 < (dropZeros d power).1 := by
  fun_induction dropZeros d power with
  | case1 d power h ih => exact ih (by omega)
  | case2 d power h => exact hd

end Shortest

/-- The shortest decimal of a number is zero only as the numeral zero. -/
theorem shortest_pos (x : Binary64) : 0 < x.shortest.1 ∨ x.shortest = (0, 0) := by
  unfold shortest
  split_ifs with h
  · exact .inr rfl
  · have hlow : 0 < (Shortest.interval x.significand x.exponent).low := by
      simp only [Shortest.interval]
      split_ifs <;> omega
    -- If nothing is found the decimal is zero without a power, which is the other case.
    obtain found | found := Shortest.search_pos hlow
      (Shortest.leadingPower (Shortest.interval x.significand x.exponent).middle
        (Shortest.interval x.significand x.exponent).scale) 17 1
    · exact .inl (Shortest.dropZeros_pos found _)
    · right
      simp only [found]
      rw [Shortest.dropZeros, dif_neg (by simp)]

end Binary64

namespace Json.Number

variable {ds : List Digit} {power : Int}

/-- Digits without a superfluous zero in front, at a power of ten: a lone zero stands for
itself only at the power zero. -/
private structure Significant (ds : List Digit) (power : Int) : Prop where
  nonempty : ds ≠ []
  leading : ∀ d rest, ds = d :: rest → d.val = 0 → rest = [] ∧ power = 0

private theorem significant_shortest (x : Binary64) :
    Significant (Decimal.digits x.shortest.1) x.shortest.2 := by
  refine ⟨Decimal.digits_ne_nil _, fun d rest hd hzero => ?_⟩
  obtain ⟨zero, hrest⟩ := Decimal.digits_leading _ d rest hd hzero
  obtain pos | both := x.shortest_pos
  · omega
  · exact ⟨hrest, by rw [both]⟩

private theorem wellFormed_plainLiteral (negative : Bool) (h : Significant ds power) :
    (plainLiteral negative ds power).WellFormed := by
  obtain ⟨d, rest, rfl⟩ := List.exists_cons_of_ne_nil h.nonempty
  unfold plainLiteral
  simp only
  split_ifs with hpower hpoint
  · refine ⟨by simp, fun d' ds' hds hzero => ?_, by simp, by simp⟩
    obtain ⟨rfl, rfl⟩ := List.cons.inj hds
    obtain ⟨rfl, rfl⟩ := h.leading d rest rfl hzero
    rfl
  · obtain ⟨n, hn⟩ : ∃ n, ((d :: rest).length + power).toNat = n + 1 :=
      ⟨_, (Nat.succ_pred_eq_of_pos (by omega)).symm⟩
    have short : n + 1 < (d :: rest).length := by omega
    rw [hn]
    refine ⟨by simp, fun d' ds' hds hzero => ?_, ?_, by simp⟩
    · obtain ⟨rfl, rfl⟩ := List.cons.inj hds
      have lone := h.leading d rest rfl hzero
      omega
    · rw [ne_eq, Option.some.injEq, List.drop_eq_nil_iff]
      omega
  · refine ⟨by simp, fun d' ds' hds _ => ?_, by simp, by simp⟩
    exact (List.cons.inj hds).2.symm

private theorem wellFormed_exponentLiteral (negative : Bool) (hds : ds ≠ []) :
    (exponentLiteral negative ds power).WellFormed := by
  obtain ⟨d, rest, rfl⟩ := List.exists_cons_of_ne_nil hds
  refine ⟨by simp [exponentLiteral], fun d' ds' h _ => ?_, ?_, fun e he => ?_⟩
  · exact (List.cons.inj h).2.symm
  · simp only [exponentLiteral]
    split_ifs with hlength
    · simp
    · rw [ne_eq, Option.some.injEq, List.drop_eq_nil_iff]
      omega
  · obtain rfl := Option.some.inj he
    exact Decimal.digits_ne_nil _

/-- Every number is written in a well-formed way. -/
theorem wellFormed_toLiteral (n : Number) : n.toLiteral.WellFormed := by
  cases n with
  | unsigned n => exact Literal.wellFormed_digits false n.toNat
  | negative m => exact Literal.wellFormed_digits true m.toNat
  | float x =>
    unfold toLiteral floatLiteral
    simp only
    split_ifs
    · exact wellFormed_plainLiteral x.negative (significant_shortest x)
    · exact wellFormed_exponentLiteral x.negative (Decimal.digits_ne_nil _)

end Json.Number

/-! ## Values -/

namespace Json.Value

mutual

/-- The text of a value is well formed. -/
theorem wellFormed_toText : ∀ v : Value, v.toText.WellFormed
  | null => by rw [toText, Text.WellFormed]; trivial
  | bool _ => by rw [toText, Text.WellFormed]; trivial
  | number n => by
    rw [toText, Text.WellFormed]
    exact n.wellFormed_toLiteral
  | string s => by
    rw [toText]
    exact Text.wellFormed_ofString s
  | array elements => by
    rw [toText, Text.WellFormed]
    exact wellFormed_elementsToText elements
  | object members => by
    rw [toText, Text.WellFormed]
    exact wellFormed_membersToText members

private theorem wellFormed_elementsToText : ∀ vs : List Value,
    Text.ElementsWellFormed (elementsToText vs)
  | [] => by rw [elementsToText, Text.ElementsWellFormed]; trivial
  | v :: vs => by
    rw [elementsToText, Text.ElementsWellFormed]
    exact ⟨wellFormed_toText v, wellFormed_elementsToText vs⟩

private theorem wellFormed_membersToText : ∀ ms : List (String × Value),
    Text.MembersWellFormed (membersToText ms)
  | [] => by rw [membersToText, Text.MembersWellFormed]; trivial
  | (k, v) :: ms => by
    rw [membersToText, Text.MembersWellFormed]
    exact ⟨Symbol.wellFormed_ofString k, wellFormed_toText v, wellFormed_membersToText ms⟩

end

/-- Reading the octets of a value is reading its text. -/
theorem parse?_write (v : Value) : parse? v.write = ofText? nestingLimit v.toText := by
  rw [parse?, write, Text.parse?_write v.wellFormed_toText]

/-- The octets of a value stand on one line. -/
theorem lineFeed_notMem_write (v : Value) : octet '\n' ∉ v.write :=
  v.wellFormed_toText.lineFeed_notMem

end Json.Value

end VersionedStore
