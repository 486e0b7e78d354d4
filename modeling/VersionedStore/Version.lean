import VersionedStore.Data.Decimal

/-!
# Versions of a document

Every write of a document makes a version of it, named by the epoch of the store and a
sequence number. A write can be made to depend on the version it expects to replace.

## Main definitions

* `Version` — an epoch and a sequence number
* `Version.ofParts?` — the version of two numbers that must be given together
* `Version.before` — the order of versions: by epoch, then by sequence number
-/

namespace VersionedStore

/-- The name of one version of a document. -/
structure Version where
  /-- The epoch of the store that made it. -/
  epoch : UInt64
  /-- The number of the write within its index. -/
  sequence : UInt64
deriving DecidableEq, Inhabited

namespace Version

/-- The version of a sequence number and an epoch: no version if both are missing, and no
answer if just one is. -/
def ofParts? : (sequence epoch : Option UInt64) → Option (Option Version)
  | some s, some e => some (some ⟨e, s⟩)
  | none, none => some none
  | _, _ => none

/-- The sequence number of a version that may be missing. -/
def sequence? (v : Option Version) : Option UInt64 := v.map sequence

/-- The epoch of a version that may be missing. -/
def epoch? (v : Option Version) : Option UInt64 := v.map epoch

theorem ofParts?_parts (v : Option Version) : ofParts? (sequence? v) (epoch? v) = some v := by
  cases v <;> rfl

/-- Whether a version is older than another: the epoch decides, then the sequence number. -/
def before (v w : Version) : Bool :=
  v.epoch < w.epoch || (v.epoch == w.epoch && v.sequence < w.sequence)

def text (v : Version) : String :=
  s!"seq={Decimal.text v.sequence.toNat} epoch={Decimal.text v.epoch.toNat}"

end Version

end VersionedStore
