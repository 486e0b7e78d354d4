import VersionedStore.Data.Decimal
import VersionedStore.Data.WhiteSpace

/-!
# Durations

Leases of open scrolls and time limits are durations. A lease travels as a number with a
unit, `500ms`, `30s`, `1m` or `2h`; it is written in whole seconds, rounded up and at least
one.

## Main definitions

* `Duration` — a whole number of nanoseconds
* `Duration.lease` — the text of a duration
* `Duration.parse?` — the duration that a text stands for
-/

namespace VersionedStore

/-- A duration, in nanoseconds. -/
structure Duration where
  nanoseconds : Nat
deriving DecidableEq, Inhabited

namespace Duration

/-- No time. -/
def zero : Duration := ⟨0⟩

/-- A number of microseconds. -/
def ofMicroseconds (n : Nat) : Duration := ⟨n * 1000⟩

/-- A number of milliseconds. -/
def ofMilliseconds (n : Nat) : Duration := ⟨n * 1000000⟩

/-- A number of seconds. -/
def ofSeconds (n : Nat) : Duration := ⟨n * 1000000000⟩

/-- The whole seconds. -/
def seconds (d : Duration) : Nat := d.nanoseconds / 1000000000

/-- The nanoseconds above the whole seconds. -/
def subsecond (d : Duration) : Nat := d.nanoseconds % 1000000000

/-- The whole milliseconds. -/
def milliseconds (d : Duration) : Nat := d.nanoseconds / 1000000

/-- The whole microseconds. -/
def microseconds (d : Duration) : Nat := d.nanoseconds / 1000

/-- Whether a duration is longer than another. -/
def exceeds (d limit : Duration) : Bool := limit.nanoseconds < d.nanoseconds

/-- The seconds of a lease: rounded up, and at least one. They are counted with 64 bits, so behind
the last second that these can count they begin again. -/
def leaseSeconds (d : Duration) : Nat :=
  let rounded : UInt64 := .ofNat d.seconds + if 0 < d.subsecond then 1 else 0
  max rounded.toNat 1

/-- A duration as it travels. -/
def lease (d : Duration) : String := s!"{Decimal.text d.leaseSeconds}s"

/-- The duration of a number of units. -/
def ofUnit? (n : UInt64) : String → Option Duration
  | "ms" => some (ofMilliseconds n.toNat)
  | "s" => some (ofSeconds n.toNat)
  -- The seconds of minutes and hours are counted with 64 bits too, and may begin again.
  | "m" => some (ofSeconds (n * 60).toNat)
  | "h" => some (ofSeconds (n * 3600).toNat)
  | _ => none

/-- Whether a character is one of the ten digits. -/
def isDigit (c : Char) : Bool := (Digit.ofChar? c).isSome

/-- The duration that digits and a unit stand for. -/
def parseChars? (cs : List Char) : Option Duration :=
  match Decimal.parseWordChars? (cs.takeWhile isDigit) with
  | none => none
  | some n => ofUnit? n (String.ofList (cs.dropWhile isDigit))

/-- The duration that a text stands for, white space around it apart. -/
def parse? (s : String) : Option Duration := parseChars? (WhiteSpace.trimChars s.toList)

end Duration

end VersionedStore
