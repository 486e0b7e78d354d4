import VersionedStore.Client.Program

/-!
# Failing bulk requests

A layer on which the next bulk requests do not get through; all other calls do.

## Main definitions

* `Outage` — how many bulk requests will fail
* `Outage.layer` — the layer
-/

namespace VersionedStore

/-- How many bulk requests will fail. -/
structure Outage where
  /-- Their number. -/
  left : Nat
deriving DecidableEq

namespace Outage

/-- The failure of a bulk request. -/
def failure : ClientError := .transport "connection reset by peer" true

/-- Lets a bulk request fail as long as that is arranged, and hands on all other calls. -/
def layer : Layer Outage := fun c s =>
  match c, s.left with
  | .bulk .., n + 1 => .done (.error failure, ⟨n⟩)
  | c, _ => .call c fun r => .done (r, s)

end Outage

end VersionedStore
