import VersionedStore.Data.Bytes

/-!
# Decimal numerals

Counters, durations and the numbers of a JSON text are written as lists of decimal digits,
most significant first.

## Main definitions

* `Digit` — a decimal digit, with its character and its octet
* `Decimal.digits`, `Decimal.value` — the digits of a number and the number of digits
* `Decimal.text` — a number as text
* `Decimal.parse?` — the number that a text of digits stands for

## Main statements

* `Decimal.value_digits` — the digits of a number stand for it
-/

namespace VersionedStore

/-- A decimal digit. -/
abbrev Digit := Fin 10

namespace Digit

/-- The digit of nothing. -/
def zero : Digit := ⟨0, by decide⟩

/-- The character of a digit. -/
def char (d : Digit) : Char := Char.ofNat (48 + d.val)

def octet (d : Digit) : UInt8 := UInt8.ofNat (48 + d.val)

/-- The digit with a given code, if there is one. -/
def ofCode? (n : Nat) : Option Digit :=
  if h : 48 ≤ n ∧ n < 58 then some ⟨n - 48, by omega⟩ else none

/-- The digit that a character stands for. -/
def ofChar? (c : Char) : Option Digit := ofCode? c.toNat

/-- The digit that an octet stands for. -/
def ofOctet? (b : UInt8) : Option Digit := ofCode? b.toNat

end Digit

namespace Decimal

/-- The digits of a number, most significant first; zero has one digit. -/
def digits (n : Nat) : List Digit :=
  if h : n < 10 then [⟨n, h⟩]
  else digits (n / 10) ++ [⟨n % 10, Nat.mod_lt n (by omega)⟩]
termination_by n
decreasing_by omega

/-- The number that a list of digits stands for, read onto `n`. -/
def extend (n : Nat) (ds : List Digit) : Nat := ds.foldl (fun n d => n * 10 + d.val) n

/-- The number that a list of digits stands for. -/
def value (ds : List Digit) : Nat := extend 0 ds

theorem value_append_singleton (ds : List Digit) (d : Digit) :
    value (ds ++ [d]) = value ds * 10 + d.val := by
  simp [value, extend]

/-- The digits of a number stand for it. -/
theorem value_digits (n : Nat) : value (digits n) = n := by
  fun_induction digits n with
  | case1 n h => simp [value, extend]
  | case2 n h ih => rw [value_append_singleton, ih]; simp only; omega

/-- A number as text. -/
def text (n : Nat) : String := String.ofList ((digits n).map Digit.char)

/-- A number as text, padded with zeros on the left to at least `width` digits. -/
def padded (width n : Nat) : String :=
  let ds := digits n
  String.ofList ((List.replicate (width - ds.length) Digit.zero ++ ds).map Digit.char)

/-- The number that a non-empty list of digit characters stands for. -/
def parseChars? (cs : List Char) : Option Nat :=
  if cs = [] then none else (cs.mapM Digit.ofChar?).map value

/-- The number that a list of digit characters stands for, if it is below 2⁶⁴. -/
def parseWordChars? (cs : List Char) : Option UInt64 :=
  match parseChars? cs with
  | some n => if n < Nat.pow 2 64 then some (UInt64.ofNat n) else none
  | none => none

/-- The number below 2⁶⁴ that a text stands for; a leading plus sign is passed over. -/
def parseWord? (s : String) : Option UInt64 :=
  match s.toList with
  | '+' :: cs => parseWordChars? cs
  | cs => parseWordChars? cs

end Decimal

end VersionedStore
