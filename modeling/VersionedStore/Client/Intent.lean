import VersionedStore.Action
import VersionedStore.Data.Description

/-!
# Intents

What a session is asked to write, before it is sent: an intent, with the change that made the
document of an update, so that a conflicting update can be made again.

## Main definitions

* `Intent` — a write that is to be sent
* `Intent.Kind` — its kind
* `Intent.action` — the action that it becomes in a bulk request
* `Pending` — an intent, the change behind it, and whether someone watches it
* `Pending.describe` — a description of it
-/

namespace VersionedStore

/-- A write that is to be sent. -/
inductive Intent
  /-- Make a document; without an id the store makes one up. -/
  | create (id : Option String) (payload : Bytes)
  /-- Put a document in place of what is there. -/
  | upsert (id : String) (payload : Bytes)
  /-- Put a document in place of the version it was made from. -/
  | update (id : String) (version : Version) (payload : Bytes)
  /-- Delete a document, if it has the version where one is given. -/
  | delete (id : String) (version : Option Version)
deriving DecidableEq

/-- The kind of an intent. -/
inductive Intent.Kind
  | create
  | upsert
  | update
  | delete
deriving DecidableEq, Inhabited

def Intent.Kind.word : Intent.Kind → String
  | create => "create"
  | upsert => "upsert"
  | update => "conditional_update"
  | delete => "delete"

namespace Intent

def kind : Intent → Kind
  | create .. => .create
  | upsert .. => .upsert
  | update .. => .update
  | delete .. => .delete

/-- The id of the document, if it is known beforehand. -/
def id? : Intent → Option String
  | create id _ => id
  | upsert id _ | update id _ _ | delete id _ => some id

/-- The action that an intent becomes in a bulk request. -/
def action : Intent → Action
  | create id payload => .create id payload
  | upsert id payload => .put id none payload
  | update id version payload => .put id (some version) payload
  | delete id version => .delete id version

def describeVersion (v : Version) : Description :=
  .record "ConcurrencyToken"
    [("epoch", .number v.epoch.toNat), ("sequence", .number v.sequence.toNat)]

/-- A description of an intent. -/
def describe : Intent → Description
  | create id payload =>
    .record "Create" [("id", .option .quoted id), ("payload", .bytes payload)]
  | upsert id payload => .record "Upsert" [("id", .quoted id), ("payload", .bytes payload)]
  | update id version payload =>
    .record "ConditionalUpdate"
      [("id", .quoted id), ("token", describeVersion version), ("payload", .bytes payload)]
  | delete id version =>
    .record "Delete" [("id", .quoted id), ("token", .option describeVersion version)]

end Intent

/-- An intent that waits to be sent. -/
structure Pending (α : Type) where
  /-- The write. -/
  intent : Intent
  /-- The change that made the document of an update. -/
  change : Option (α → α) := none
  /-- Whether someone is to be told of its fate. -/
  watched : Bool := false

namespace Pending

variable {α : Type}

/-- A description of a waiting intent. -/
def describe (p : Pending α) : Description :=
  .record "BulkItem"
    [("intent", p.intent.describe), ("transform", .bool p.change.isSome),
      ("callback", .bool p.watched)]

end Pending

end VersionedStore
