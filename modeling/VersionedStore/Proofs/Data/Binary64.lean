import Mathlib.Algebra.Order.Field.Power
import Mathlib.Tactic.FieldSimp
import Mathlib.Tactic.Linarith
import Mathlib.Tactic.Positivity
import Mathlib.Tactic.Ring
import VersionedStore.Data.Binary64

/-!
# Rounding stays in the format

## Main definitions

* `Binary64.Valid` — the numbers of the format
* `Binary64.magnitude` — the value of a number, its sign left out

## Main results

* `Binary64.valid_of_ofDecimal?` — what a decimal is rounded to is a number of the format
* `Binary64.ofDecimal?_isSome` — a decimal that is far enough below the end of the range is rounded
-/

namespace VersionedStore.Binary64

/-- The significand and the exponent have the bits of the format. -/
structure Valid (x : Binary64) : Prop where
  significand : x.significand < 2 ^ 53
  least : minExponent ≤ x.exponent
  greatest : x.exponent ≤ maxExponent

/-- The value of a number, its sign left out. -/
def magnitude (x : Binary64) : ℚ := x.significand * 2 ^ x.exponent

theorem valid_zero (negative : Bool) : Valid { zero with negative } where
  significand := Nat.two_pow_pos 53
  least := le_refl minExponent
  greatest := by simp [zero, minExponent, maxExponent]

/-! ## Rounding a ratio -/

/-- A power as a ratio of powers, one of which is one. -/
theorem zpow_eq_div (b : ℚ) (e : ℤ) : b ^ e = b ^ e.toNat / b ^ (-e).toNat := by
  obtain ⟨k, rfl | rfl⟩ := e.eq_nat_or_neg
  · simp
  · simp

/-- A ratio that is divided by a power of two. -/
theorem unscale_eq (n d : Nat) (e : ℤ) :
    ((unscale n d e).1 : ℚ) / (unscale n d e).2 = n / d * 2 ^ (-e) := by
  rw [zpow_eq_div, neg_neg, unscale]
  push_cast [Nat.pow_eq]
  rw [mul_div_mul_comm]

theorem unscale_pos {d : Nat} (hd : 0 < d) (n : Nat) (e : ℤ) : 0 < (unscale n d e).2 := by
  rw [unscale]
  exact Nat.mul_pos hd (Nat.pow_pos (by decide))

theorem divToEven_le (n : Nat) {d : Nat} (hd : 0 < d) : (divToEven n d : ℚ) ≤ n / d + 1 / 2 := by
  have whole := Nat.div_add_mod n d
  -- Only a remainder of half the divisor or more is rounded up.
  have twice : 2 * (divToEven n d * d) ≤ 2 * n + d := by
    have split : 2 * (n / d * d) + 2 * (n % d) = 2 * n := by
      rw [Nat.mul_comm (n / d)]
      omega
    unfold divToEven
    simp only
    split_ifs <;> first | omega | (rw [Nat.add_mul]; omega)
  have positive : (0 : ℚ) < d := by exact_mod_cast hd
  have cast : (2 : ℚ) * (divToEven n d * d) ≤ 2 * n + d := by exact_mod_cast twice
  rw [div_add_div _ _ positive.ne' two_ne_zero, le_div_iff₀ (by positivity)]
  linarith

/-- The exponent leaves a significand of 53 bits, or of fewer at the least exponent. -/
theorem exponentOf_bounds {n d : Nat} (hn : 0 < n) (hd : 0 < d) :
    (n / d : ℚ) < 2 ^ (exponentOf n d + 53) ∧ minExponent ≤ exponentOf n d ∧
      (exponentOf n d = minExponent ∨ (2 : ℚ) ^ (exponentOf n d + 52) ≤ n / d) := by
  have positive : (0 : ℚ) < d := by exact_mod_cast hd
  set guess : ℤ := (n.log2 : ℤ) - (d.log2 : ℤ) - 52 with hguess
  -- The lengths of both numbers tell the ratio up to a factor of two on either side.
  have lower : (2 : ℚ) ^ (guess + 51) ≤ n / d := by
    have hn' : (2 : ℚ) ^ (n.log2 : ℤ) ≤ n := by exact_mod_cast Nat.log2_self_le hn.ne'
    have hd' : (d : ℚ) ≤ 2 ^ ((d.log2 : ℤ) + 1) := by exact_mod_cast (Nat.lt_log2_self (n := d)).le
    rw [le_div_iff₀ positive]
    calc (2 : ℚ) ^ (guess + 51) * d ≤ 2 ^ (guess + 51) * 2 ^ ((d.log2 : ℤ) + 1) := by gcongr
      _ = 2 ^ (n.log2 : ℤ) := by
        rw [← zpow_add₀ two_ne_zero]
        congr 1
        omega
      _ ≤ n := hn'
  have upper : (n / d : ℚ) < 2 ^ (guess + 53) := by
    have hn' : (n : ℚ) < 2 ^ ((n.log2 : ℤ) + 1) := by exact_mod_cast Nat.lt_log2_self (n := n)
    have hd' : (2 : ℚ) ^ (d.log2 : ℤ) ≤ d := by exact_mod_cast Nat.log2_self_le hd.ne'
    rw [div_lt_iff₀ positive]
    calc (n : ℚ) < 2 ^ ((n.log2 : ℤ) + 1) := hn'
      _ = 2 ^ (guess + 53) * 2 ^ (d.log2 : ℤ) := by
        rw [← zpow_add₀ two_ne_zero]
        congr 1
        omega
      _ ≤ 2 ^ (guess + 53) * d := by gcongr
  have scaled := unscale_eq n d guess
  have scaledPos : (0 : ℚ) < (unscale n d guess).2 := by exact_mod_cast unscale_pos hd n guess
  have tells : (unscale n d guess).1 / (unscale n d guess).2 < 2 ^ 52 ↔
      (n / d : ℚ) < 2 ^ (guess + 52) := by
    rw [Nat.div_lt_iff_lt_mul (unscale_pos hd n guess),
      ← Nat.cast_lt (α := ℚ), Nat.cast_mul, ← div_lt_iff₀ scaledPos, scaled, zpow_neg,
      mul_inv_lt_iff₀ (by positivity), zpow_add₀ two_ne_zero, mul_comm]
    norm_num
  obtain ⟨exponent, hexponent, below, above⟩ : ∃ e : ℤ, exponentOf n d = max minExponent e ∧
      (n / d : ℚ) < 2 ^ (e + 53) ∧ (2 : ℚ) ^ (e + 52) ≤ n / d := by
    by_cases small : (unscale n d guess).1 / (unscale n d guess).2 < 2 ^ 52
    · refine ⟨guess - 1, ?_, ?_, ?_⟩
      · simp only [exponentOf, ← hguess, Nat.pow_eq, if_pos small]
      · rw [show guess - 1 + 53 = guess + 52 by omega]
        exact tells.1 small
      · rw [show guess - 1 + 52 = guess + 51 by omega]
        exact lower
    · refine ⟨guess, ?_, upper, ?_⟩
      · simp only [exponentOf, ← hguess, Nat.pow_eq, if_neg small]
      · exact not_lt.1 fun h => small (tells.2 h)
  rw [hexponent]
  refine ⟨below.trans_le (zpow_le_zpow_right₀ one_le_two (by omega)), le_max_left _ _, ?_⟩
  obtain h | h := max_choice minExponent exponent
  · exact .inl h
  · right
    rw [h]
    exact above

/-- What a ratio is rounded to, unless its exponent is above the range. -/
theorem roundRatio_eq (negative : Bool) {n d : Nat} (hn : 0 < n) (hd : 0 < d) :
    ∃ (significand : Nat) (x : Binary64),
      roundRatio negative n d = (if x.exponent ≤ maxExponent then some x else none) ∧
      (significand : ℚ) ≤ n / d * 2 ^ (-exponentOf n d) + 1 / 2 ∧
      x.magnitude = significand * 2 ^ exponentOf n d ∧ x.significand < 2 ^ 53 ∧
      (x.exponent = exponentOf n d ∨
        x.exponent = exponentOf n d + 1 ∧ significand = 2 ^ 53) := by
  have scaledPos := unscale_pos hd n (exponentOf n d)
  have rounded := divToEven_le (unscale n d (exponentOf n d)).1 scaledPos
  rw [unscale_eq] at rounded
  have atMost : divToEven (unscale n d (exponentOf n d)).1 (unscale n d (exponentOf n d)).2 ≤
      2 ^ 53 := by
    have below : (n / d : ℚ) * 2 ^ (-exponentOf n d) < 2 ^ 53 := by
      have small := (exponentOf_bounds hn hd).1
      rw [zpow_add₀ two_ne_zero] at small
      rw [zpow_neg, mul_inv_lt_iff₀ (by positivity), mul_comm]
      exact_mod_cast small
    have next : (divToEven (unscale n d (exponentOf n d)).1 (unscale n d (exponentOf n d)).2 : ℚ) <
        (2 ^ 53 + 1 : Nat) := by
      push_cast
      linarith
    exact Nat.lt_succ_iff.1 (Nat.cast_lt.1 next)
  refine ⟨_, _, by rw [roundRatio, if_neg hn.ne'], rounded, ?_⟩
  simp only [Nat.pow_eq]
  split
  · next carried =>
    refine ⟨?_, Nat.pow_lt_pow_right (by decide) (by decide), .inr ⟨rfl, carried⟩⟩
    rw [magnitude, carried, zpow_add₀ two_ne_zero]
    push_cast
    ring
  · next kept => exact ⟨rfl, lt_of_le_of_ne atMost kept, .inl rfl⟩

private theorem divToEven_zero_le (n : Nat) : divToEven n 0 ≤ 1 := by
  unfold divToEven
  simp only [Nat.div_zero]
  split_ifs <;> omega

/-- What a ratio is rounded to is a number of the format. -/
theorem valid_of_roundRatio {negative : Bool} {n d : Nat} {x : Binary64}
    (h : roundRatio negative n d = some x) : x.Valid := by
  obtain rfl | hn := Nat.eq_zero_or_pos n
  · rw [roundRatio, if_pos rfl] at h
    rw [← Option.some.inj h]
    exact valid_zero negative
  obtain rfl | hd := Nat.eq_zero_or_pos d
  -- A ratio without a divisor is rounded to nothing much, but to a number of the format.
  · have small : divToEven (unscale n 0 (exponentOf n 0)).1 (unscale n 0 (exponentOf n 0)).2 ≤
        1 := by
      rw [unscale, Nat.zero_mul]
      exact divToEven_zero_le _
    have least : minExponent ≤ exponentOf n 0 := le_max_left _ _
    have kept : divToEven (unscale n 0 (exponentOf n 0)).1 (unscale n 0 (exponentOf n 0)).2 ≠
        2 ^ 53 := by omega
    simp only [roundRatio, if_neg hn.ne', Nat.pow_eq, if_neg kept] at h
    split at h
    · next greatest =>
      rw [← Option.some.inj h]
      exact ⟨small.trans_lt (by decide), least, greatest⟩
    · simp at h
  · obtain ⟨_, y, rounded, -, -, significand, exponent⟩ := roundRatio_eq negative hn hd
    have least := (exponentOf_bounds hn hd).2.1
    rw [h] at rounded
    split at rounded
    · next greatest =>
      rw [Option.some.inj rounded]
      exact ⟨significand, by omega, greatest⟩
    · simp at rounded

/-- Half a step above the greatest number of the format. -/
def limit : ℚ := (2 ^ 55 - 2) * 2 ^ 969

/-- A bound for decimals that are surely in range, however their two roundings go. -/
def readable : ℚ := (2 ^ 55 - 10) * 2 ^ 969

theorem pow_lt_readable {k : Nat} (h : k ≤ 969) : (2 : ℚ) ^ k < readable := by
  calc (2 : ℚ) ^ k ≤ 2 ^ 969 := pow_le_pow_right₀ one_le_two h
    _ < readable := lt_mul_of_one_lt_left (by positivity) (by norm_num)

theorem readable_lt_limit : readable < limit :=
  mul_lt_mul_of_pos_right (by norm_num) (by positivity)

/-- A ratio below the limit is rounded to a number of the format. -/
theorem roundRatio_isSome (negative : Bool) {n d : Nat} (hd : 0 < d) (h : (n / d : ℚ) < limit) :
    (roundRatio negative n d).isSome := by
  obtain rfl | hn := Nat.eq_zero_or_pos n
  · rw [roundRatio, if_pos rfl, Option.isSome_some]
  obtain ⟨s, x, rounded, near, -, -, exponent⟩ := roundRatio_eq negative hn hd
  obtain ⟨-, -, normal⟩ := exponentOf_bounds hn hd
  rw [rounded, if_pos, Option.isSome_some]
  rw [maxExponent]
  obtain same | ⟨next, carried⟩ := exponent
  · obtain least | large := normal
    · rw [same, least]
      decide
    · have small : (2 : ℚ) ^ (exponentOf n d + 52) < 2 ^ (1024 : ℤ) := by
        refine (large.trans_lt h).trans ?_
        rw [limit, show (1024 : ℤ) = 55 + 969 from rfl, zpow_add₀ two_ne_zero]
        exact mul_lt_mul_of_pos_right (by norm_num) (by positivity)
      have := (zpow_lt_zpow_iff_right₀ one_lt_two).1 small
      omega
  -- If rounding carries, the ratio was half a step below the next power of two, or more.
  · by_contra above
    have step : (2 : ℚ) ^ (971 : ℤ) ≤ 2 ^ exponentOf n d :=
      zpow_le_zpow_right₀ one_le_two (by omega)
    have half : (2 ^ 53 - 1 / 2 : ℚ) ≤ n / d * 2 ^ (-exponentOf n d) := by
      rw [carried] at near
      push_cast at near
      linarith
    rw [zpow_neg, ← div_eq_mul_inv, le_div_iff₀ (by positivity)] at half
    have reached : limit ≤ n / d :=
      calc limit = (2 ^ 53 - 1 / 2 : ℚ) * 2 ^ (971 : ℤ) := by
            rw [limit, show (971 : ℤ) = 2 + 969 from rfl, zpow_add₀ two_ne_zero, ← mul_assoc]
            congr 1
            norm_num
        _ ≤ (2 ^ 53 - 1 / 2 : ℚ) * 2 ^ exponentOf n d :=
            mul_le_mul_of_nonneg_left step (by norm_num)
        _ ≤ n / d := half
    linarith

/-- Rounding adds a part in 2⁵³ at most, for what is not below one. -/
theorem magnitude_le_of_roundRatio {negative : Bool} {n d : Nat} {x : Binary64}
    (h : roundRatio negative n d = some x) (hd : 0 < d) (hle : d ≤ n) :
    x.magnitude ≤ n / d * (1 + 1 / 2 ^ 53) := by
  have hn : 0 < n := hd.trans_le hle
  have one : (1 : ℚ) ≤ n / d := by
    rw [le_div_iff₀ (by exact_mod_cast hd), one_mul]
    exact_mod_cast hle
  obtain ⟨s, y, rounded, near, value, -, -⟩ := roundRatio_eq negative hn hd
  obtain ⟨small, -, normal⟩ := exponentOf_bounds hn hd
  have large : (2 : ℚ) ^ (exponentOf n d + 52) ≤ n / d := by
    refine normal.resolve_left fun least => ?_
    have tiny : (2 : ℚ) ^ (exponentOf n d + 53) ≤ 2 ^ (0 : ℤ) :=
      zpow_le_zpow_right₀ one_le_two (by rw [least]; decide)
    rw [zpow_zero] at tiny
    linarith
  have same : x = y := by
    rw [h] at rounded
    split at rounded
    · exact Option.some.inj rounded
    · simp at rounded
  have unit : (0 : ℚ) < 2 ^ exponentOf n d := by positivity
  rw [zpow_add₀ two_ne_zero] at large
  rw [zpow_neg, ← div_eq_mul_inv] at near
  calc x.magnitude = s * 2 ^ exponentOf n d := by rw [same, value]
    _ ≤ (n / d / 2 ^ exponentOf n d + 1 / 2) * 2 ^ exponentOf n d := by gcongr
    _ = n / d + 2 ^ exponentOf n d / 2 := by field_simp
    _ ≤ n / d * (1 + 1 / 2 ^ 53) := by
      norm_num at large ⊢
      linarith

/-! ## Decimals -/

theorem ratio_pos (x : Binary64) : 0 < x.ratio.2 := Nat.pow_pos (by decide)

theorem ratio_eq (x : Binary64) : (x.ratio.1 : ℚ) / x.ratio.2 = x.magnitude := by
  rw [ratio, magnitude, zpow_eq_div, Nat.cast_mul, mul_div_assoc]
  push_cast [Nat.pow_eq]
  rfl

theorem magnitude_powerOfTen_le (k : Nat) :
    (powerOfTen k).magnitude ≤ 10 ^ k * (1 + 1 / 2 ^ 53) := by
  rw [powerOfTen, ofNat]
  cases rounded : roundRatio false (Nat.pow 10 k) 1 with
  | none =>
    have : (zero : Binary64).magnitude = 0 := by simp [zero, magnitude]
    rw [Option.getD_none, this]
    positivity
  | some x =>
    have near := magnitude_le_of_roundRatio rounded Nat.one_pos (Nat.pow_pos (by decide))
    rw [Option.getD_some]
    push_cast [Nat.pow_eq, div_one] at near
    exact near

theorem magnitude_nonneg (x : Binary64) : 0 ≤ x.magnitude := by
  rw [magnitude]
  positivity

theorem mul?_isSome {x y : Binary64} (h : x.magnitude * y.magnitude < limit) :
    (x.mul? y).isSome := by
  rw [mul?]
  refine roundRatio_isSome _ (Nat.mul_pos x.ratio_pos y.ratio_pos) ?_
  rw [Nat.cast_mul, Nat.cast_mul, mul_div_mul_comm, ratio_eq, ratio_eq]
  exact h

theorem valid_div (x y : Binary64) : (x.div y).Valid := by
  rw [div]
  cases rounded : roundRatio x.negative (x.ratio.1 * y.ratio.2) (x.ratio.2 * y.ratio.1) with
  | none => exact valid_zero false
  | some z => exact valid_of_roundRatio rounded

theorem valid_of_scaleByTen {x y : Binary64} {power : ℤ} (valid : x.Valid)
    (h : x.scaleByTen power = some y) : y.Valid := by
  fun_induction scaleByTen x power with
  | case1 x power _ _ => rwa [← Option.some.inj h]
  | case2 x power _ _ ih => exact ih (x.valid_div _) h
  | case3 x power _ _ =>
    rw [← Option.some.inj h]
    exact x.valid_div _
  | case4 x power _ _ _ => exact valid_of_roundRatio h
  | case5 x power _ _ _ _ => rwa [← Option.some.inj h]
  | case6 x power _ _ _ _ => simp at h

/-- What a decimal is rounded to is a number of the format. -/
theorem valid_of_ofDecimal? {negative : Bool} {significand : Nat} {power : ℤ} {x : Binary64}
    (h : ofDecimal? negative significand power = some x) : x.Valid := by
  rw [ofDecimal?] at h
  split at h
  · simp at h
  · next rounded => exact valid_of_scaleByTen (valid_of_roundRatio rounded) h

/-- The powers of ten below one take numbers of the format to such numbers. -/
theorem scaleByTen_isSome_of_neg (x : Binary64) {power : ℤ} (h : power < 0) :
    (x.scaleByTen power).isSome := by
  fun_induction scaleByTen x power with
  | case1 x power _ _ => rfl
  | case2 x power _ _ ih => exact ih (by omega)
  | case3 x power _ _ => rfl
  | case4 x power _ _ _ => omega
  | case5 x power _ _ _ _ => rfl
  | case6 x power _ _ _ _ => omega

/-- A decimal that is far enough below the end of the range is rounded, in whatever way. -/
theorem ofDecimal?_isSome (negative : Bool) {significand : Nat} {power : ℤ}
    (small : significand < 2 ^ 64) (h : 0 ≤ power → significand * (10 : ℚ) ^ power ≤ readable) :
    (ofDecimal? negative significand power).isSome := by
  have first : (roundRatio negative significand 1).isSome := by
    refine roundRatio_isSome _ Nat.one_pos ?_
    have : (significand : ℚ) < 2 ^ 64 := by exact_mod_cast small
    rw [Nat.cast_one, div_one]
    exact this.trans ((pow_lt_readable (by decide)).trans readable_lt_limit)
  obtain ⟨x, rounded⟩ := Option.isSome_iff_exists.1 first
  rw [ofDecimal?, rounded]
  simp only
  by_cases below : power < 0
  · exact x.scaleByTen_isSome_of_neg below
  obtain ⟨k, rfl⟩ := Int.eq_ofNat_of_zero_le (not_lt.1 below)
  have bound := h (not_lt.1 below)
  rw [zpow_natCast] at bound
  rw [scaleByTen, if_neg (by omega), if_neg below]
  obtain rfl | positive := Nat.eq_zero_or_pos significand
  · rw [roundRatio, if_pos rfl] at rounded
    have zero : x.significand = 0 := by rw [← Option.some.inj rounded]; rfl
    split
    · refine mul?_isSome ?_
      rw [magnitude, zero, Nat.cast_zero, zero_mul, zero_mul]
      exact (pow_pos two_pos 0).trans ((pow_lt_readable (Nat.zero_le _)).trans readable_lt_limit)
    · rw [Option.isSome_some]
  · have one : (1 : ℚ) ≤ significand := by exact_mod_cast positive
    have notLarge : k ≤ 308 := by
      by_contra large
      have power : (10 : ℚ) ^ 309 ≤ 10 ^ k := pow_le_pow_right₀ (by norm_num) (by omega)
      have decimal : (10 : ℚ) ^ k ≤ significand * 10 ^ k :=
        le_mul_of_one_le_left (by positivity) one
      have far : readable < (10 : ℚ) ^ 309 :=
        calc readable < 2 ^ 55 * 2 ^ 969 := mul_lt_mul_of_pos_right (by norm_num) (by positivity)
          _ = (2 ^ 128) ^ 8 := by rw [← pow_add, ← pow_mul]
          _ ≤ (4 * 10 ^ 38) ^ 8 := pow_le_pow_left₀ (by positivity) (by norm_num) 8
          _ = 4 ^ 8 * 10 ^ 304 := by rw [mul_pow, ← pow_mul]
          _ < 10 ^ 5 * 10 ^ 304 := mul_lt_mul_of_pos_right (by norm_num) (by positivity)
          _ = 10 ^ 309 := (pow_add 10 5 304).symm
      exact (far.trans_le (power.trans (decimal.trans bound))).false
    rw [if_pos (by omega)]
    refine mul?_isSome ?_
    have near := magnitude_le_of_roundRatio rounded Nat.one_pos positive
    rw [Nat.cast_one, div_one] at near
    calc x.magnitude * (powerOfTen k).magnitude
        ≤ significand * (1 + 1 / 2 ^ 53) * (10 ^ k * (1 + 1 / 2 ^ 53)) :=
          mul_le_mul near (magnitude_powerOfTen_le k) (magnitude_nonneg _) (by positivity)
      _ = significand * 10 ^ k * (1 + 1 / 2 ^ 53) ^ 2 := by ring
      _ ≤ readable * (1 + 1 / 2 ^ 53) ^ 2 := by gcongr
      _ < limit := by
        rw [readable, limit, mul_right_comm]
        exact mul_lt_mul_of_pos_right (by norm_num) (by positivity)

end VersionedStore.Binary64
