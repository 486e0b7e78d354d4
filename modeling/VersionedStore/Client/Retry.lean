import VersionedStore.Duration
import VersionedStore.Version

/-!
# Attempts

An update that meets a conflict is tried again a bounded number of times, after a pause that
is drawn from a window.

## Main definitions

* `RetryConfig` — the greatest number of attempts and the window of the pauses
* `RetryConfig.pause` — the pause of a draw
* `Attempts` — the attempts made so far
* `Attempts.decide` — whether there is another attempt after a conflict
-/

namespace VersionedStore

/-- How often an update is tried, and how long the pauses are. -/
structure RetryConfig where
  /-- The greatest number of attempts; none counts as one. -/
  limit : Nat
  /-- The least pause. -/
  least : Duration
  /-- The greatest pause. -/
  greatest : Duration
deriving DecidableEq

namespace RetryConfig

/-- A number of attempts with pauses of 50 to 500 milliseconds. -/
def ofLimit (limit : Nat) : RetryConfig :=
  ⟨limit, .ofMilliseconds 50, .ofMilliseconds 500⟩

/-- The same with another window; the ends may come in any order. -/
def within (r : RetryConfig) (a b : Duration) : RetryConfig :=
  if a.nanoseconds ≤ b.nanoseconds then { r with least := a, greatest := b }
  else { r with least := b, greatest := a }

/-- One attempt, no pause. -/
def once : RetryConfig := (ofLimit 1).within .zero .zero

/-- Two attempts. -/
def standard : RetryConfig := ofLimit 2

/-- The number of attempts, at least one. -/
def attempts (r : RetryConfig) : Nat := max 1 r.limit

/-- The greatest number of nanoseconds that is drawn. -/
def drawLimit : Nat := Nat.pow 2 64 - 1

/-- The pause of a draw: a number of nanoseconds between the ends of the window, where ends
above 2⁶⁴ - 1 count as that, brought back into the window. -/
def pause (r : RetryConfig) (draw : Nat) : Duration :=
  if r.greatest.nanoseconds ≤ r.least.nanoseconds then r.least
  else
    -- Draws have 64 bits, so the ends of the window are cut to that before the draw.
    let low := min r.least.nanoseconds drawLimit
    let high := min r.greatest.nanoseconds drawLimit
    let drawn := low + draw % (high - low + 1)
    ⟨max r.least.nanoseconds (min drawn r.greatest.nanoseconds)⟩

/-- Whether a pause lies in the window. -/
def allows (r : RetryConfig) (d : Duration) : Bool :=
  r.least.nanoseconds ≤ d.nanoseconds && d.nanoseconds ≤ r.greatest.nanoseconds

end RetryConfig

/-- The attempts made so far. -/
structure Attempts where
  /-- How many there were. -/
  made : Nat
  /-- The greatest number, at least one. -/
  limit : Nat
  /-- The version that the last one expected. -/
  last : Option Version
deriving DecidableEq

/-- What follows a conflict. -/
inductive Decision
  /-- Another attempt, after so many. -/
  | again (made : Nat)
  /-- None, after so many. -/
  | exhausted (made : Nat)
deriving DecidableEq

namespace Attempts

/-- No attempts so far. -/
def start (limit : Nat) : Attempts := ⟨0, max 1 limit, none⟩

/-- One more attempt, on a version. -/
def begin (a : Attempts) (v : Version) : Attempts := { a with made := a.made + 1, last := some v }

/-- What follows a conflict. -/
def decide (a : Attempts) : Decision :=
  if a.made < a.limit then .again a.made else .exhausted a.made

end Attempts

end VersionedStore
