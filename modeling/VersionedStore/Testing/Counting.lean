import VersionedStore.Client.Program

/-!
# Counted calls

A layer that counts every call and hands it on.

## Main definitions

* `CallCounts` — how many calls of every kind there were
* `CallCounts.record` — the counts with one more call
* `CallCounts.layer` — the layer
-/

namespace VersionedStore

/-- How many calls of every kind there were. -/
structure CallCounts where
  /-- The bulk requests. -/
  bulk : Nat := 0
  /-- The actions of all bulk requests. -/
  actions : Nat := 0
  /-- The documents that were asked for. -/
  get : Nat := 0
  write : Nat := 0
  delete : Nat := 0
  search : Nat := 0
  /-- The further pages that were asked for. -/
  advance : Nat := 0
  /-- The searches that were ended. -/
  release : Nat := 0
  /-- The counts of matches. -/
  count : Nat := 0
  refresh : Nat := 0
  /-- The number of actions of every bulk request, in order. -/
  batches : List Nat := []
deriving DecidableEq

namespace CallCounts

/-- The counts with one more call. -/
def record (n : CallCounts) : Call → CallCounts
  | .bulk _ actions _ =>
    { n with
      bulk := n.bulk + 1
      actions := n.actions + actions.length
      batches := n.batches ++ [actions.length] }
  | .get .. => { n with get := n.get + 1 }
  | .write .. => { n with write := n.write + 1 }
  | .delete .. => { n with delete := n.delete + 1 }
  | .search .. => { n with search := n.search + 1 }
  | .advance .. => { n with advance := n.advance + 1 }
  | .release _ => { n with release := n.release + 1 }
  | .count .. => { n with count := n.count + 1 }
  | .refresh _ => { n with refresh := n.refresh + 1 }

/-- Counts a call and hands it on. -/
def layer : Layer CallCounts := fun c n => .call c fun r => .done (r, n.record c)

end CallCounts

end VersionedStore
