import VersionedStore.Client.Codec
import VersionedStore.Client.Program
import VersionedStore.Client.Retry

/-!
# Updates

An update reads a document with its version, changes it, and writes it back on condition that
it still has that version. A conflict starts the round again from the read, as long as there
are attempts left; anything else ends it.

## Main definitions

* `Updater` — what the updates of an index have in common
* `Updater.update` — the program of an update
* `Updated` — the result of an update
-/

namespace VersionedStore

/-- What the updates of an index have in common. -/
structure Updater (α : Type) where
  /-- How documents are written and read. -/
  codec : Codec α
  index : String
  /-- When the writes become visible. -/
  refresh : RefreshPolicy
  /-- The greatest number of attempts; none counts as one. -/
  limit : Nat

/-- The result of an update. -/
structure Updated where
  /-- The acknowledgement of the write. -/
  acknowledgement : Acknowledgement
  attempts : Nat
deriving DecidableEq

namespace Updater

variable {α : Type}

/-- The write of an attempt. -/
def request (u : Updater α) (id : String) (payload : Bytes) (v : Version) : WriteRequest :=
  { WriteRequest.guarded id payload v with refresh := u.refresh }

/-- The rounds of an update, with at most `left` writes. -/
def rounds (u : Updater α) (id : String) (change : α → α) :
    (left : Nat) → Attempts → Program (Except ClientError Updated)
  | 0, a => .done (.error (.exhausted id a.made))
  | left + 1, a =>
    .call (.get u.index id) fun
      | .error e => .done (.error e)
      | .ok none => .done (.error (.notFound id))
      | .ok (some current) =>
        match u.codec.revise change current.source with
        | .error e => .done (.error e)
        | .ok payload =>
          let a := a.begin current.version
          .call (.write u.index (u.request id payload current.version)) fun
            | .ok w => .done (.ok ⟨w, a.made⟩)
            | .error (.conflict ..) =>
              match a.decide with
              -- The next round reads again: the version that was expected is gone for good.
              | .again _ => u.rounds id change left a
              | .exhausted made => .done (.error (.exhausted id made))
            | .error e => .done (.error e)

/-- Puts `change d` in place of the document `d` of an id. A caller that blocks and one that waits for
replies make the same calls, so this is the program of both. -/
def update (u : Updater α) (id : String) (change : α → α) : Program (Except ClientError Updated) :=
  let a := Attempts.start u.limit
  u.rounds id change a.limit a

end Updater

end VersionedStore
