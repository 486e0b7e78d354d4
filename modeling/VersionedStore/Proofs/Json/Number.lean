import VersionedStore.Proofs.Data.Binary64
import VersionedStore.Proofs.Json.Printing

/-!
# Printed numbers are read again

The literal of a number is read again as a number. A floating point number is printed with the
fewest digits that identify it, but it is read with several roundings, so another number may come
back; it never is out of range.

## Main definitions

* `Json.Number.Proper` — the numbers that are read
* `Json.Number.reread` — what the literal of a number is read as

## Main results

* `Json.Number.proper_of_ofLiteral?` — only proper numbers are read
* `Json.Number.ofLiteral?_toLiteral` — the literal of a proper number is read again
-/

namespace VersionedStore

/-! ## The fewest digits -/

namespace Binary64

namespace Shortest

private theorem factors_eq (scale power : ℤ) :
    ((factors scale power).1 : ℚ) / (factors scale power).2 = 2 ^ scale / 10 ^ power := by
  rw [zpow_eq_div 2, zpow_eq_div 10, factors]
  push_cast [Nat.pow_eq]
  field_simp

/-- What lies in the interval is not above its upper end. -/
theorem Interval.le_of_contains {i : Interval} {d : Nat} {power : ℤ}
    (h : i.contains d power = true) : (d : ℚ) * 10 ^ power ≤ i.high * 2 ^ i.scale := by
  have below : d * (factors i.scale power).2 ≤ i.high * (factors i.scale power).1 := by
    unfold contains at h
    simp only at h
    split at h
    · exact of_decide_eq_true (Bool.and_eq_true_iff.1 h).2
    · exact (of_decide_eq_true (Bool.and_eq_true_iff.1 h).2 : _ < _).le
  have positive : (0 : ℚ) < (factors i.scale power).2 := by
    exact_mod_cast Nat.mul_pos (Nat.pow_pos (by decide)) (Nat.pow_pos (by decide))
  have cast : (d : ℚ) * (factors i.scale power).2 ≤ i.high * (factors i.scale power).1 := by
    exact_mod_cast below
  rw [← le_div_iff₀ positive, mul_div_assoc, factors_eq, mul_div_assoc', le_div_iff₀
    (by positivity)] at cast
  exact cast

theorem contains_of_nearest? {i : Interval} {d : Nat} {power : ℤ}
    (h : nearest? i power = some d) : i.contains d power = true := by
  unfold nearest? at h
  simp only at h
  split at h
  · next inside _ => rwa [← Option.some.inj h]
  · next _ inside => rwa [← Option.some.inj h]
  · simp at h
  · next below above =>
    split_ifs at h
    · rwa [← Option.some.inj h]
    · rwa [← Option.some.inj h]
    · rwa [← Option.some.inj h]
    · rwa [← Option.some.inj h]

/-- What is found lies in the interval, or is zero. -/
theorem search_le (i : Interval) (leading : ℤ) (fuel digits : Nat) :
    ((search i leading fuel digits).1 : ℚ) * 10 ^ (search i leading fuel digits).2 ≤
      i.high * 2 ^ i.scale := by
  induction fuel generalizing digits with
  | zero =>
    rw [search, Nat.cast_zero, zero_mul]
    positivity
  | succ fuel ih =>
    rw [search]
    split
    · next found => exact i.le_of_contains (contains_of_nearest? found)
    · exact ih _

theorem dropZeros_eq (d : Nat) (power : ℤ) :
    ((dropZeros d power).1 : ℚ) * 10 ^ (dropZeros d power).2 = d * 10 ^ power := by
  fun_induction dropZeros d power with
  | case1 d power h ih =>
    have whole : ((d / 10 : Nat) : ℚ) * 10 = d := by
      exact_mod_cast Nat.div_mul_cancel (Nat.dvd_of_mod_eq_zero h.2)
    rw [ih, zpow_add₀ (by norm_num), zpow_one, ← whole]
    ring
  | case2 d power _ => rfl

end Shortest

/-- Apart from the last two numbers of the format, what is printed is surely in range. -/
theorem shortest_le_readable {x : Binary64} (valid : x.Valid)
    (h : x.significand ≤ 2 ^ 53 - 3 ∨ x.exponent ≤ 970) :
    (x.shortest.1 : ℚ) * 10 ^ x.shortest.2 ≤ readable := by
  rw [shortest]
  split
  · rw [Nat.cast_zero, zero_mul, readable]
    exact mul_nonneg (by norm_num) (by positivity)
  simp only
  rw [Shortest.dropZeros_eq]
  refine (Shortest.search_le _ _ _ _).trans ?_
  simp only [Shortest.interval]
  have greatest := valid.greatest
  rw [maxExponent] at greatest
  obtain h | h := h
  · have digits : ((4 * x.significand + 2 : Nat) : ℚ) ≤ 2 ^ 55 - 10 := by
      have : 4 * x.significand + 2 ≤ 2 ^ 55 - 10 := by omega
      calc ((4 * x.significand + 2 : Nat) : ℚ) ≤ ((2 ^ 55 - 10 : Nat) : ℚ) := by exact_mod_cast this
        _ = 2 ^ 55 - 10 := by norm_num
    have scale : (2 : ℚ) ^ (x.exponent - 2) ≤ 2 ^ (969 : ℤ) :=
      zpow_le_zpow_right₀ one_le_two (by omega)
    exact mul_le_mul digits scale (by positivity) (by norm_num)
  · have digits : ((4 * x.significand + 2 : Nat) : ℚ) ≤ 2 * (2 ^ 55 - 10) := by
      have significand := valid.significand
      have : 4 * x.significand + 2 ≤ 2 * (2 ^ 55 - 10) := by omega
      calc ((4 * x.significand + 2 : Nat) : ℚ) ≤ ((2 * (2 ^ 55 - 10) : Nat) : ℚ) := by
            exact_mod_cast this
        _ = 2 * (2 ^ 55 - 10) := by norm_num
    have scale : (2 : ℚ) ^ (x.exponent - 2) ≤ 2 ^ (968 : ℤ) :=
      zpow_le_zpow_right₀ one_le_two (by omega)
    calc ((4 * x.significand + 2 : Nat) : ℚ) * 2 ^ (x.exponent - 2)
        ≤ 2 * (2 ^ 55 - 10) * 2 ^ (968 : ℤ) := mul_le_mul digits scale (by positivity) (by norm_num)
      _ = (2 ^ 55 - 10) * (2 ^ (968 : ℤ) * 2) := by ring
      _ = readable := by rw [← zpow_add_one₀ two_ne_zero]; rfl

end Binary64

namespace Json

/-! ## Literals -/

namespace Literal

private theorem mul_pow_le_extend (n : Nat) (ds : List Digit) :
    n * 10 ^ ds.length ≤ Decimal.extend n ds := by
  induction ds generalizing n with
  | nil => simp [Decimal.extend]
  | cons d ds ih =>
    have next := ih (n * 10 + d.val)
    rw [Decimal.extend] at next ⊢
    rw [List.foldl_cons, List.length_cons, pow_succ, Nat.mul_comm (10 ^ _), ← Nat.mul_assoc]
    exact (Nat.mul_le_mul_right _ (Nat.le_add_right _ _)).trans next

/-- The digits that are taken stand for no more than all digits; those that are left count as
zeros. -/
theorem accumulate_le (n : Nat) (ds : List Digit) :
    (accumulate n ds).1 * 10 ^ (accumulate n ds).2.length ≤ Decimal.extend n ds := by
  induction ds generalizing n with
  | nil => simp [accumulate, Decimal.extend]
  | cons d ds ih =>
    rw [accumulate]
    split
    · exact ih _
    · exact mul_pow_le_extend n _

theorem accumulate_lt {n : Nat} (h : n < 2 ^ 64) (ds : List Digit) :
    (accumulate n ds).1 < 2 ^ 64 := by
  induction ds generalizing n with
  | nil => exact h
  | cons d ds ih =>
    rw [accumulate]
    split
    · next small => exact ih small
    · exact h

theorem length_accumulate_le (n : Nat) (ds : List Digit) :
    (accumulate n ds).2.length ≤ ds.length := by
  induction ds generalizing n with
  | nil => simp [accumulate]
  | cons d ds ih =>
    rw [accumulate]
    split
    · exact (ih _).trans (Nat.le_succ _)
    · exact le_refl _

private theorem extend_lt (n : Nat) (ds : List Digit) :
    Decimal.extend n ds < (n + 1) * 10 ^ ds.length := by
  induction ds generalizing n with
  | nil => simp [Decimal.extend]
  | cons d ds ih =>
    have next : n * 10 + d.val + 1 ≤ (n + 1) * 10 := by omega
    calc Decimal.extend n (d :: ds) < (n * 10 + d.val + 1) * 10 ^ ds.length := ih _
      _ ≤ (n + 1) * 10 * 10 ^ ds.length := Nat.mul_le_mul_right _ next
      _ = (n + 1) * 10 ^ (d :: ds).length := by rw [List.length_cons, pow_succ]; ring

/-- Nineteen digits are all taken. -/
theorem accumulate_short {ds : List Digit} (h : ds.length ≤ 19) : (accumulate 0 ds).2 = [] := by
  have fits : Decimal.extend 0 ds < Nat.pow 2 64 :=
    calc Decimal.extend 0 ds < (0 + 1) * 10 ^ ds.length := extend_lt 0 ds
      _ ≤ (0 + 1) * 10 ^ 19 := Nat.mul_le_mul_left _ (Nat.pow_le_pow_right (by decide) h)
      _ ≤ Nat.pow 2 64 := by decide
  rw [accumulate_of_lt fits]

theorem scientific_lt (l : Literal) : l.scientific.1 < 2 ^ 64 :=
  accumulate_lt (accumulate_lt (by decide) _) _

end Literal

/-! ## Floating point numbers -/

namespace Number

open Binary64

/-- A literal without exponent has no positive power of ten, if it is not too long. -/
theorem scientific_plainLiteral_le (negative : Bool) {ds : List Digit} {power : ℤ}
    (h : (ds.length : ℤ) + power - 1 ≤ greatestPlain) :
    (plainLiteral negative ds power).scientific.2 ≤ 0 := by
  have short : (Literal.accumulate 0 (plainLiteral negative ds power).whole).2 = [] := by
    refine Literal.accumulate_short ?_
    rw [greatestPlain] at h
    unfold plainLiteral
    simp only
    split
    · simp only [List.length_append, List.length_replicate]
      omega
    · split
      · simp only [List.length_take]
        omega
      · simp
  have written : (plainLiteral negative ds power).writtenExponent = 0 := by
    unfold plainLiteral
    simp only
    split
    · rfl
    · split <;> rfl
  have taken := Literal.length_accumulate_le
    (Literal.accumulate 0 (plainLiteral negative ds power).whole).1
    ((plainLiteral negative ds power).fraction.getD [])
  rw [Literal.scientific]
  simp only [short, written, List.length_nil]
  omega

/-- A literal with an exponent stands for no more than the digits times the power of ten that it is
made of. -/
theorem scientific_exponentLiteral_le (negative : Bool) {ds : List Digit} (h : ds ≠ [])
    (power : ℤ) :
    ((exponentLiteral negative ds power).scientific.1 : ℚ) *
        10 ^ (exponentLiteral negative ds power).scientific.2 ≤
      Decimal.value ds * 10 ^ power := by
  obtain ⟨d, ds, rfl⟩ := List.exists_cons_of_ne_nil h
  have first : Literal.accumulate 0 [d] = (d.val, []) := by
    have := d.isLt
    rw [Literal.accumulate, if_pos, Literal.accumulate, Nat.zero_mul, Nat.zero_add]
    rw [Nat.pow_eq]
    omega
  have fraction : (exponentLiteral negative (d :: ds) power).fraction.getD [] = ds := by
    cases ds <;> rfl
  have written :
      (exponentLiteral negative (d :: ds) power).writtenExponent = ds.length + power := by
    have leading : (((d :: ds).length : ℤ) + power - 1) = ds.length + power := by
      rw [List.length_cons]
      omega
    simp only [Literal.writtenExponent, exponentLiteral, leading, Decimal.value_digits]
    by_cases nonneg : 0 ≤ ds.length + power
    · rw [if_pos nonneg, if_neg (by decide), Int.natAbs_of_nonneg nonneg]
    · rw [if_neg nonneg, if_pos rfl]
      omega
  have scientific : (exponentLiteral negative (d :: ds) power).scientific =
      ((Literal.accumulate d.val ds).1, ((Literal.accumulate d.val ds).2.length : ℤ) + power) := by
    have taken := Literal.length_accumulate_le d.val ds
    rw [Literal.scientific, fraction, written]
    simp only [exponentLiteral, List.take_succ_cons, List.take_zero, first, List.length_nil]
    refine Prod.ext rfl ?_
    simp only
    omega
  have below : ((Literal.accumulate d.val ds).1 : ℚ) *
      10 ^ (Literal.accumulate d.val ds).2.length ≤ Decimal.value (d :: ds) := by
    have := Literal.accumulate_le d.val ds
    have value : Decimal.value (d :: ds) = Decimal.extend d.val ds := by
      simp [Decimal.value, Decimal.extend]
    rw [value]
    exact_mod_cast this
  rw [scientific]
  simp only
  rw [zpow_add₀ (by norm_num), zpow_natCast, ← mul_assoc]
  exact mul_le_mul_of_nonneg_right below (by positivity)

/-- A floating point number is written without exponent only if its digits are few. -/
theorem floatLiteral_cases (x : Binary64) :
    (((Decimal.digits x.shortest.1).length : ℤ) + x.shortest.2 - 1 ≤ greatestPlain ∧
        floatLiteral x = plainLiteral x.negative (Decimal.digits x.shortest.1) x.shortest.2) ∨
      floatLiteral x = exponentLiteral x.negative (Decimal.digits x.shortest.1) x.shortest.2 := by
  by_cases plain : leastPlain ≤ ((Decimal.digits x.shortest.1).length : ℤ) + x.shortest.2 - 1 ∧
      ((Decimal.digits x.shortest.1).length : ℤ) + x.shortest.2 - 1 ≤ greatestPlain
  · exact .inl ⟨plain.2, if_pos plain⟩
  · exact .inr (if_neg plain)

/-- The last two numbers of the format are printed above the bound, and are read all the same. -/
private theorem floatOf?_greatest : ∀ negative, ∀ m ∈ [2 ^ 53 - 2, 2 ^ 53 - 1],
    (floatOf? (floatLiteral ⟨negative, m, maxExponent⟩)).isSome := by decide +kernel

/-- The literal of a floating point number is read again. -/
theorem floatOf?_floatLiteral {x : Binary64} (valid : x.Valid) :
    ∃ y, floatOf? (floatLiteral x) = some (float y) := by
  suffices h : (floatOf? (floatLiteral x)).isSome by
    obtain ⟨n, hn⟩ := Option.isSome_iff_exists.1 h
    obtain ⟨y, -, rfl⟩ := Option.map_eq_some_iff.1 hn
    exact ⟨y, hn⟩
  by_cases last : maxExponent ≤ x.exponent ∧ 2 ^ 53 - 2 ≤ x.significand
  · obtain ⟨negative, m, e⟩ := x
    obtain rfl : e = maxExponent := le_antisymm valid.greatest last.1
    refine floatOf?_greatest negative m ?_
    have significand := valid.significand
    have greatest := last.2
    simp only at significand greatest
    rw [List.mem_cons, List.mem_singleton]
    omega
  rw [floatOf?, Option.isSome_map]
  refine ofDecimal?_isSome _ (Literal.scientific_lt _) fun nonneg => ?_
  have small := (floatLiteral x).scientific_lt
  obtain ⟨few, plain⟩ | exponent := floatLiteral_cases x
  -- Without an exponent the number is at most its digits.
  · rw [plain] at nonneg small ⊢
    rw [le_antisymm (scientific_plainLiteral_le x.negative few) nonneg, zpow_zero, mul_one]
    have digits : ((plainLiteral x.negative (Decimal.digits x.shortest.1)
        x.shortest.2).scientific.1 : ℚ) < 2 ^ 64 := by exact_mod_cast small
    exact (digits.trans (pow_lt_readable (by decide))).le
  · rw [exponent]
    refine (scientific_exponentLiteral_le _ (Decimal.digits_ne_nil _) _).trans ?_
    rw [Decimal.value_digits]
    refine shortest_le_readable valid ?_
    rw [maxExponent] at last
    omega

/-! ## Numbers -/

/-- The numbers that are read: whole numbers below zero have a magnitude, and floating point numbers
are of the format. -/
def Proper : Number → Prop
  | unsigned _ => True
  | negative m => 0 < m.toNat ∧ m.toNat ≤ 2 ^ 63
  | float x => x.Valid

/-- What the literal of a number is read as. -/
def reread (n : Number) : Number := (ofLiteral? n.toLiteral).getD n

theorem proper_of_floatOf? {l : Literal} {n : Number} (h : floatOf? l = some n) : n.Proper := by
  obtain ⟨x, hx, rfl⟩ := Option.map_eq_some_iff.1 h
  exact valid_of_ofDecimal? hx

/-- Only proper numbers are read. -/
theorem proper_of_ofLiteral? {l : Literal} {n : Number} (h : ofLiteral? l = some n) :
    n.Proper := by
  unfold ofLiteral? at h
  split at h
  · exact proper_of_floatOf? h
  · next m _ =>
    split_ifs at h with sign large
    · exact proper_of_floatOf? h
    · rw [← Option.some.inj h, Proper]
      rw [not_or, Nat.pow_eq] at large
      rw [UInt64.toNat_ofNat_of_lt' (by rw [UInt64.size]; omega)]
      omega
    · rw [← Option.some.inj h]
      trivial

/-- A floating point number always shows a point or an exponent. -/
theorem shown_floatLiteral (x : Binary64) :
    (floatLiteral x).fraction ≠ none ∨ (floatLiteral x).exponent ≠ none := by
  obtain ⟨-, plain⟩ | exponent := floatLiteral_cases x
  · left
    rw [plain]
    unfold plainLiteral
    simp only
    split_ifs <;> simp
  · right
    rw [exponent]
    simp [exponentLiteral]

theorem whole?_floatLiteral (x : Binary64) : (floatLiteral x).whole? = none := by
  have shown := shown_floatLiteral x
  unfold Literal.whole?
  split
  · next fraction exponent _ => exact absurd shown (by simp [fraction, exponent])
  · rfl

/-- The literal of a proper number is read again. -/
theorem ofLiteral?_toLiteral {n : Number} (h : n.Proper) :
    ofLiteral? n.toLiteral = some n.reread := by
  suffices read : ∃ m, ofLiteral? n.toLiteral = some m by
    obtain ⟨m, hm⟩ := read
    rw [reread, hm, Option.getD_some]
  cases n with
  | unsigned n => exact ⟨_, ofLiteral?_digits n⟩
  | negative m => exact ⟨_, ofLiteral?_negative_digits h.1 h.2⟩
  | float x =>
    obtain ⟨y, hy⟩ := floatOf?_floatLiteral h
    exact ⟨_, by rw [toLiteral, ofLiteral?, whole?_floatLiteral, hy]⟩

/-- A whole number is read again as it is. -/
theorem reread_unsigned (n : UInt64) : (unsigned n).reread = unsigned n :=
  Option.some.inj
    ((ofLiteral?_toLiteral (n := unsigned n) trivial).symm.trans (ofLiteral?_digits n))

end Number

end Json

end VersionedStore
