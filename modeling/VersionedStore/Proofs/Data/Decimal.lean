import Mathlib.Data.List.Basic
import VersionedStore.Data.Decimal

/-!
# Numerals are read back

## Main results

* `Decimal.digits_leading` — only zero has a leading zero
* `Decimal.parseWordChars?_digits`, `Decimal.parseWord?_text` — a number of 64 bits is read off its
  numeral
-/

namespace VersionedStore

/-! ## Digits -/

theorem Digit.ofChar?_char (d : Digit) : Digit.ofChar? d.char = some d := by
  revert d
  decide

theorem Digit.char_ne_plus (d : Digit) : d.char ≠ '+' := by
  revert d
  decide

namespace Decimal

theorem digits_ne_nil (n : Nat) : digits n ≠ [] := by
  rw [digits]
  split <;> simp

/-- Only zero has a leading zero, and no digit after it. -/
theorem digits_leading (n : Nat) :
    ∀ d ds, digits n = d :: ds → d.val = 0 → n = 0 ∧ ds = [] := by
  fun_induction digits n with
  | case1 n h => simp
  | case2 n h ih =>
    intro d ds hd hzero
    obtain ⟨d', ds', hn⟩ := List.exists_cons_of_ne_nil (digits_ne_nil (n / 10))
    rw [hn, List.cons_append] at hd
    obtain ⟨rfl, -⟩ := List.cons.inj hd
    have small := (ih d' ds' hn hzero).1
    omega

/-! ## Numerals -/

theorem toList_text (n : Nat) : (text n).toList = (digits n).map Digit.char := by
  rw [text, String.toList_ofList]

private theorem mapM_ofChar? (ds : List Digit) :
    (ds.map Digit.char).mapM Digit.ofChar? = some ds := by
  induction ds with
  | nil => rfl
  | cons d ds ih => rw [List.map_cons, List.mapM_cons, Digit.ofChar?_char, ih]; rfl

/-- A number is read off its digits if it has 64 bits. -/
theorem parseWordChars?_digits (n : Nat) : parseWordChars? ((digits n).map Digit.char) =
    if n < Nat.pow 2 64 then some (UInt64.ofNat n) else none := by
  rw [parseWordChars?, parseChars?, if_neg (by simp [digits_ne_nil]), mapM_ofChar?]
  simp only [Option.map_some, value_digits]

/-- A number of 64 bits is read off its numeral. -/
theorem parseWord?_text (n : UInt64) : parseWord? (text n.toNat) = some n := by
  have word : parseWordChars? ((digits n.toNat).map Digit.char) = some n := by
    rw [parseWordChars?_digits, if_pos n.toNat_lt, UInt64.ofNat_toNat]
  -- A numeral may be signed, but no digit is a plus sign.
  obtain ⟨d, ds, h⟩ := List.exists_cons_of_ne_nil (digits_ne_nil n.toNat)
  rw [h, List.map_cons] at word
  unfold parseWord?
  rw [toList_text, h, List.map_cons]
  split
  · next plus => exact absurd (List.cons.inj plus).1 d.char_ne_plus
  · exact word

end Decimal

end VersionedStore
