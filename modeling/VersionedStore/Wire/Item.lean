import VersionedStore.Wire.Error

/-!
# Failures and bulk replies

A failure is a status with a cause. The reply to a bulk request holds one outcome per
action, in the order of the actions.

## Main definitions

* `FailureKind` — the three kinds of failure that clients tell apart
* `Wire.Cause`, `Wire.Failure` — why a request or an item failed
* `Wire.Outcome` — the outcome of one action
* `Wire.Item` — an outcome under the kind of its action
* `Wire.BulkReply` — the reply to a bulk request
-/

namespace VersionedStore

open Json

/-- The kinds of failure that clients tell apart. -/
inductive FailureKind
  /-- The document has not the expected version. -/
  | conflict
  /-- There is no such document or index. -/
  | notFound
  /-- Anything else. -/
  | other
deriving DecidableEq, Inhabited

def FailureKind.ofStatus (status : UInt16) : FailureKind :=
  if status = 409 then conflict else if status = 404 then notFound else other

namespace Wire

/-! ### Causes -/

/-- Why a request or an item failed. -/
structure Cause where
  /-- The name of the kind of failure. -/
  type : String
  /-- The reason, in words. -/
  reason : String
deriving DecidableEq

namespace Cause

def toText (c : Cause) : Text :=
  .ofMembers [("type", .ofString c.type), ("reason", .ofString c.reason)]

def read : Reader Cause := fun level t => do
  let r ← Record.ofText? [.required "type", .required "reason"] level t
  return ⟨← r.required "type" Reader.string, ← r.required "reason" Reader.string⟩

/-- A cause in one line. -/
def message (c : Cause) : String := s!"{c.type}: {c.reason}"

end Cause

/-- The body of a reply to a request that failed. -/
structure Failure where
  /-- Why it failed. -/
  cause : Cause
  /-- The status of the reply. -/
  status : UInt16
deriving DecidableEq

namespace Failure

def toText (f : Failure) : Text :=
  .ofMembers [("error", f.cause.toText), ("status", .ofNat f.status.toNat)]

def read : Reader Failure := fun level t => do
  let r ← Record.ofText? [.required "error", .required "status"] level t
  return ⟨← r.required "error" Cause.read, ← r.required "status" Reader.word16⟩

end Failure

/-! ### Outcomes of actions -/

/-- The outcome of one action. -/
structure Outcome where
  /-- The index that the action was applied to. -/
  index : Option String := none
  id : Option String := none
  /-- The status that the action would have as a request of its own. -/
  status : UInt16
  /-- The sequence number of the version it made. -/
  sequence : Option UInt64 := none
  /-- The epoch of the version it made. -/
  epoch : Option UInt64 := none
  /-- What it did, in a word. -/
  result : Option String := none
  /-- Why it failed. -/
  cause : Option Cause := none
deriving DecidableEq

namespace Outcome

/-- Whether the action was applied. -/
def isSuccess (o : Outcome) : Bool :=
  o.cause.isNone && decide (200 ≤ o.status ∧ o.status < 300)

/-- The kind of failure of an action that was not applied. -/
def failureKind? (o : Outcome) : Option FailureKind :=
  if o.isSuccess then none else some (.ofStatus o.status)

/-- The version that the action made, if both its halves are told. -/
def version (o : Outcome) : Option Version := (Version.ofParts? o.sequence o.epoch).join

/-- The cause of the failure in one line; nothing if none is told. -/
def failureMessage (o : Outcome) : String :=
  match o.cause with
  | none => ""
  | some c => c.message

def fields : List Field :=
  [.omitted "_index", .omitted "_id", .required "status", .omitted "_seq_no",
    .omitted "_primary_term", .omitted "result", .omitted "error"]

def toText (o : Outcome) : Text :=
  .ofMembers (
    Record.given "_index" .ofString o.index ++
    Record.given "_id" .ofString o.id ++
    [("status", .ofNat o.status.toNat)] ++
    Record.given "_seq_no" (fun n => .ofNat n.toNat) o.sequence ++
    Record.given "_primary_term" (fun n => .ofNat n.toNat) o.epoch ++
    Record.given "result" .ofString o.result ++
    Record.given "error" Cause.toText o.cause)

def read : Reader Outcome := fun level t => do
  let r ← Record.ofText? fields level t
  return {
    index := ← r.optional "_index" Reader.string
    id := ← r.optional "_id" Reader.string
    status := ← r.required "status" Reader.word16
    sequence := ← r.optional "_seq_no" Reader.word64
    epoch := ← r.optional "_primary_term" Reader.word64
    result := ← r.optional "result" Reader.string
    cause := ← r.optional "error" Cause.read }

end Outcome

/-- An outcome under the kind of its action. -/
structure Item where
  /-- What the action does. -/
  kind : Action.Kind
  outcome : Outcome
deriving DecidableEq

namespace Item

/-- The text of an item: the outcome as the only member of an object. -/
def toText (i : Item) : Text := .ofMembers [(i.kind.word, i.outcome.toText)]

/-- Reads what is below the kind of an item. -/
def readTagged (key : String) : Reader Item := fun level t => do
  return ⟨← Action.Kind.ofWord? key, ← Outcome.read level t⟩

def read : Reader Item := Record.tagged? readTagged

end Item

/-! ### Bulk replies -/

/-- The reply to a bulk request. -/
structure BulkReply where
  /-- Milliseconds that the store took. -/
  took : UInt64
  /-- Whether an action failed. -/
  errors : Bool
  /-- The outcomes, in the order of the actions. -/
  items : List Item
deriving DecidableEq

namespace BulkReply

/-- The reply with the given outcomes. -/
def ofItems (took : UInt64) (items : List Item) : BulkReply :=
  ⟨took, items.any fun i => !i.outcome.isSuccess, items⟩

def toText (r : BulkReply) : Text :=
  .ofMembers [("took", .ofNat r.took.toNat), ("errors", .bool r.errors),
    ("items", .array (r.items.map Item.toText))]

def read : Reader BulkReply := fun level t => do
  let r ← Record.ofText? [.omitted "took", .required "errors", .required "items"] level t
  return {
    took := ← r.orDefault "took" 0 Reader.word64
    errors := ← r.required "errors" Reader.bool
    items := ← r.required "items" (Reader.list Item.read) }

end BulkReply

/-- Reads a message off the octets of a body. -/
def parse? {α : Type} (read : Reader α) (body : Bytes) : Option α :=
  (Text.parse? body).bind (read nestingLimit)

end Wire

end VersionedStore
