import Mathlib.Order.Bounds.Defs
import VersionedStore.Duration
import VersionedStore.Proofs.Data.Decimal

/-!
# Leases travel

A lease travels in whole seconds, at least one, so the lease that arrives is never for no time.

## Main results

* `Duration.parse?_lease` — what a lease is read as
* `Duration.isLeast_leaseSeconds` — the seconds are the fewest that are long enough
* `Duration.parse?_lease_rounds_up` — a lease of a number of seconds with 64 bits arrives, rounded
  up to the next second
-/

namespace VersionedStore.Duration

private theorem char_digit (d : Digit) :
    isDigit d.char = true ∧ WhiteSpace.contains d.char = false := by
  revert d
  decide

theorem exceeds_iff {d limit : Duration} :
    d.exceeds limit = true ↔ limit.nanoseconds < d.nanoseconds := decide_eq_true_iff

theorem leaseSeconds_lt (d : Duration) : d.leaseSeconds < Nat.pow 2 64 :=
  Nat.max_lt.2 ⟨UInt64.toNat_lt _, by decide⟩

/-- A lease is read in whole seconds. -/
theorem parse?_lease (d : Duration) : parse? d.lease = some (ofSeconds d.leaseSeconds) := by
  have written : d.lease.toList = (Decimal.digits d.leaseSeconds).map Digit.char ++ ['s'] := by
    change (Decimal.text d.leaseSeconds ++ "s").toList = _
    rw [String.toList_append, Decimal.toList_text]
    rfl
  -- A digit comes first and the unit last, so there is no white space to trim.
  have trimmed : WhiteSpace.trimChars d.lease.toList = d.lease.toList := by
    obtain ⟨digit, digits, h⟩ := List.exists_cons_of_ne_nil (Decimal.digits_ne_nil d.leaseSeconds)
    rw [written, WhiteSpace.trimChars, h, List.map_cons, List.cons_append,
      List.dropWhile_cons_of_neg (by simp [(char_digit digit).2]), List.reverse_cons,
      List.reverse_append, List.reverse_singleton, List.singleton_append, List.cons_append,
      List.dropWhile_cons_of_neg (by decide)]
    simp
  have number : ((Decimal.digits d.leaseSeconds).map Digit.char).all isDigit = true := by
    rw [List.all_map, List.all_eq_true]
    exact fun digit _ => (char_digit digit).1
  have first : d.lease.toList.takeWhile isDigit =
      (Decimal.digits d.leaseSeconds).map Digit.char := by
    rw [written, List.takeWhile_append_of_pos (List.all_eq_true.1 number)]
    simp [show isDigit 's' = false by decide]
  have unit : d.lease.toList.dropWhile isDigit = ['s'] := by
    rw [written, List.dropWhile_append_of_pos (List.all_eq_true.1 number)]
    rfl
  rw [parse?, trimmed, parseChars?, first, unit, Decimal.parseWordChars?_digits,
    if_pos (leaseSeconds_lt d)]
  change some (ofSeconds (UInt64.ofNat d.leaseSeconds).toNat) = _
  rw [UInt64.toNat_ofNat_of_lt' (leaseSeconds_lt d)]

/-- A lease that arrives is for some time. -/
theorem ofSeconds_leaseSeconds_ne_zero (d : Duration) : ofSeconds d.leaseSeconds ≠ zero := by
  have least : 1 ≤ d.leaseSeconds := Nat.le_max_right _ _
  rw [ofSeconds, zero, Ne, Duration.mk.injEq]
  omega

/-! ### Rounding up -/

variable {d : Duration}

/-- Up to the last second that 64 bits count, none begins again. -/
theorem leaseSeconds_eq (short : d.nanoseconds ≤ (ofSeconds (Nat.pow 2 64 - 1)).nanoseconds) :
    d.leaseSeconds = max (d.seconds + if 0 < d.subsecond then 1 else 0) 1 := by
  have few : d.nanoseconds ≤ (2 ^ 64 - 1) * 1000000000 := short
  have fits : d.seconds + (if 0 < d.subsecond then 1 else 0) < 2 ^ 64 := by
    rw [seconds, subsecond]
    split <;> omega
  have small : d.seconds < 2 ^ 64 := Nat.lt_of_le_of_lt (Nat.le_add_right _ _) fits
  rw [leaseSeconds, UInt64.toNat_add, UInt64.toNat_ofNat_of_lt' small, apply_ite UInt64.toNat]
  exact congrArg (max · 1) (Nat.mod_eq_of_lt fits)

/-- The number of seconds is long enough for a lease exactly if the lease has no more. -/
theorem leaseSeconds_le_iff (short : d.nanoseconds ≤ (ofSeconds (Nat.pow 2 64 - 1)).nanoseconds)
    (n : Nat) : d.leaseSeconds ≤ n ↔ 1 ≤ n ∧ d.nanoseconds ≤ (ofSeconds n).nanoseconds := by
  rw [leaseSeconds_eq short, seconds, subsecond, ofSeconds]
  dsimp only
  split <;> omega

/-- The seconds of a lease are the fewest, one or more, that are long enough. -/
theorem isLeast_leaseSeconds (short : d.nanoseconds ≤ (ofSeconds (Nat.pow 2 64 - 1)).nanoseconds) :
    IsLeast { n | 1 ≤ n ∧ d.nanoseconds ≤ (ofSeconds n).nanoseconds } d.leaseSeconds :=
  ⟨(leaseSeconds_le_iff short _).1 (Nat.le_refl _),
    fun n enough => (leaseSeconds_le_iff short n).2 enough⟩

/-- A whole number of seconds keeps its length. -/
theorem leaseSeconds_ofSeconds {n : Nat} (some_time : 1 ≤ n) (fits : n < Nat.pow 2 64) :
    (ofSeconds n).leaseSeconds = n := by
  have short : (ofSeconds n).nanoseconds ≤ (ofSeconds (Nat.pow 2 64 - 1)).nanoseconds :=
    Nat.mul_le_mul_right _ (Nat.le_sub_one_of_lt fits)
  refine Nat.le_antisymm ((leaseSeconds_le_iff short n).2 ⟨some_time, Nat.le_refl _⟩) ?_
  have enough := (isLeast_leaseSeconds short).1.2
  exact Nat.le_of_mul_le_mul_right enough (by decide)

/-- What a lease is rounded up by is less than a second, unless it is for no time. -/
theorem ofSeconds_leaseSeconds_lt
    (short : d.nanoseconds ≤ (ofSeconds (Nat.pow 2 64 - 1)).nanoseconds) (h : d ≠ zero) :
    (ofSeconds d.leaseSeconds).nanoseconds < d.nanoseconds + (ofSeconds 1).nanoseconds := by
  have some_time : 0 < d.nanoseconds :=
    Nat.pos_of_ne_zero fun none => h (by rw [zero, ← none])
  rw [leaseSeconds_eq short, seconds, subsecond, ofSeconds, ofSeconds]
  dsimp only
  split <;> omega

/-- A longer duration has no shorter lease. -/
theorem leaseSeconds_mono {d' : Duration}
    (short : d'.nanoseconds ≤ (ofSeconds (Nat.pow 2 64 - 1)).nanoseconds)
    (h : d.nanoseconds ≤ d'.nanoseconds) : d.leaseSeconds ≤ d'.leaseSeconds := by
  have enough := (isLeast_leaseSeconds short).1
  exact (leaseSeconds_le_iff (Nat.le_trans h short) _).2 ⟨enough.1, Nat.le_trans h enough.2⟩

/-- A lease shorter than the seconds that 64 bits count arrives as the fewest whole seconds, one
or more, that are long enough: it is never cut, it grows by less than a second unless it was for
no time, it travels on as the same text, and of two leases the longer one arrives no shorter. -/
theorem parse?_lease_rounds_up (d : Duration)
    (short : d.nanoseconds < (ofSeconds (Nat.pow 2 64 - 1)).nanoseconds) :
    ∃ n, parse? d.lease = some (ofSeconds n) ∧
      IsLeast { n | 1 ≤ n ∧ d.nanoseconds ≤ (ofSeconds n).nanoseconds } n ∧
      (d ≠ zero → (ofSeconds n).nanoseconds < d.nanoseconds + (ofSeconds 1).nanoseconds) ∧
      (ofSeconds n).lease = d.lease ∧
      ∀ d' : Duration, d'.nanoseconds < (ofSeconds (Nat.pow 2 64 - 1)).nanoseconds →
        d.nanoseconds ≤ d'.nanoseconds →
        ∃ n', parse? d'.lease = some (ofSeconds n') ∧ n ≤ n' := by
  have least := isLeast_leaseSeconds (Nat.le_of_lt short)
  refine ⟨d.leaseSeconds, parse?_lease d, least, ofSeconds_leaseSeconds_lt (Nat.le_of_lt short), ?_,
    fun d' short' longer =>
      ⟨d'.leaseSeconds, parse?_lease d', leaseSeconds_mono (Nat.le_of_lt short') longer⟩⟩
  rw [lease, leaseSeconds_ofSeconds least.1.1 (leaseSeconds_lt d), ← lease]

/-- A nanosecond above the last whole second but one: the lease is for the most seconds that 64
bits count. -/
theorem parse?_lease_rounds_up_longest :
    (⟨18446744073709551614000000001⟩ : Duration).nanoseconds
        < (ofSeconds (Nat.pow 2 64 - 1)).nanoseconds ∧
      parse? (⟨18446744073709551614000000001⟩ : Duration).lease
        = some (ofSeconds 18446744073709551615) := by
  have short : (⟨18446744073709551614000000001⟩ : Duration).nanoseconds
      < (ofSeconds (Nat.pow 2 64 - 1)).nanoseconds := by decide
  obtain ⟨n, arrives, ⟨⟨-, enough⟩, fewest⟩, -⟩ := parse?_lease_rounds_up _ short
  have most : n ≤ 18446744073709551615 := fewest ⟨by decide, by decide⟩
  have n_eq : n = 18446744073709551615 := by
    rw [ofSeconds] at enough
    dsimp only at enough
    omega
  exact ⟨short, n_eq ▸ arrives⟩

end VersionedStore.Duration
