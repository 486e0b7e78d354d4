import VersionedStore.Duration
import VersionedStore.Wire.Error

/-!
# Words in requests

The parameters of a request are words; some of them stand for refresh policies and
durations.

## Main definitions

* `Wire.refreshPolicy`, `Wire.duration` — what a word stands for, or the fault of it
-/

namespace VersionedStore.Wire

/-- The refresh policy that a word stands for. -/
def refreshPolicy (word : String) : Except Error RefreshPolicy :=
  match RefreshPolicy.ofParam? word with
  | none => .error (.refreshPolicy word)
  | some p => .ok p

/-- The duration that a word stands for. -/
def duration (word : String) : Except Error Duration :=
  match Duration.parse? word with
  | none => .error (.duration (WhiteSpace.trim word))
  | some d => .ok d

end VersionedStore.Wire
