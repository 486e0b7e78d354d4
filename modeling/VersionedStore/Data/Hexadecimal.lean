import VersionedStore.Data.Bytes

/-!
# Hexadecimal numerals

## Main definitions

* `Hexadecimal.digits` — the digits of a number
* `Hexadecimal.lower`, `Hexadecimal.upper` — the character of a digit
* `Hexadecimal.value?` — the digit that an octet stands for
-/

namespace VersionedStore.Hexadecimal

/-- The digits of a number, most significant first; zero has one digit. -/
def digits (n : Nat) : List (Fin 16) :=
  if h : n < 16 then [⟨n, h⟩]
  else digits (n / 16) ++ [⟨n % 16, Nat.mod_lt n (by omega)⟩]
termination_by n
decreasing_by omega

/-- The character of a digit, a lower-case letter from ten on. -/
def lower (d : Fin 16) : Char :=
  if d.val < 10 then Char.ofNat (48 + d.val) else Char.ofNat (87 + d.val)

/-- The character of a digit, an upper-case letter from ten on. -/
def upper (d : Fin 16) : Char :=
  if d.val < 10 then Char.ofNat (48 + d.val) else Char.ofNat (55 + d.val)

/-- The digit that an octet stands for, letters of either case. -/
def value? (b : UInt8) : Option (Fin 16) :=
  let n := b.toNat
  if h : 48 ≤ n ∧ n < 58 then some ⟨n - 48, by omega⟩
  else if h : 97 ≤ n ∧ n < 103 then some ⟨n - 87, by omega⟩
  else if h : 65 ≤ n ∧ n < 71 then some ⟨n - 55, by omega⟩
  else none

/-- The high digit of an octet. -/
def high (b : UInt8) : Fin 16 := ⟨b.toNat / 16, by have := b.toNat_lt; omega⟩

/-- The low digit of an octet. -/
def low (b : UInt8) : Fin 16 := ⟨b.toNat % 16, Nat.mod_lt _ (by omega)⟩

/-- The octet of two digits. -/
def octetOf (h l : Fin 16) : UInt8 := UInt8.ofNat (h.val * 16 + l.val)

theorem octetOf_high_low (b : UInt8) : octetOf (high b) (low b) = b := by
  unfold octetOf high low
  simp only
  rw [show b.toNat / 16 * 16 + b.toNat % 16 = b.toNat by omega]
  exact UInt8.ofNat_toNat

theorem value?_lower (d : Fin 16) : value? (octet (lower d)) = some d := by
  revert d; decide

theorem value?_upper (d : Fin 16) : value? (octet (upper d)) = some d := by
  revert d; decide

end VersionedStore.Hexadecimal
