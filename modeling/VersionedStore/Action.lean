import VersionedStore.Data.Bytes
import VersionedStore.Version

/-!
# Bulk actions

A bulk request is a list of actions, each on one document: create it, put it (in place of
what is there), or delete it.

## Main definitions

* `Action.Kind` — what an action does, with its word on the wire
* `WriteMode` — the two ways of writing a document
* `Action` — one action of a bulk request
* `RefreshPolicy` — when writes become visible to searches
-/

namespace VersionedStore

/-- What an action does. -/
inductive Action.Kind
  /-- Make a document; there must be none of that name. -/
  | create
  /-- Put a document in place of what is there. -/
  | index
  /-- Delete a document. -/
  | delete
deriving DecidableEq, Inhabited

namespace Action.Kind

def word : Action.Kind → String
  | create => "create"
  | index => "index"
  | delete => "delete"

/-- The kind that a word stands for. -/
def ofWord? : String → Option Action.Kind
  | "create" => some create
  | "index" => some index
  | "delete" => some delete
  | _ => none

/-- Whether a document comes with the action. -/
def hasSource : Action.Kind → Bool
  | delete => false
  | _ => true

end Action.Kind

/-- How a document is written. -/
inductive WriteMode
  /-- There must be no document of that id. -/
  | create
  /-- In place of what is there. -/
  | index
deriving DecidableEq, Inhabited

namespace WriteMode

def word : WriteMode → String
  | create => "create"
  | index => "index"

/-- The kind of action that writes in this mode. -/
def kind : WriteMode → Action.Kind
  | create => .create
  | index => .index

end WriteMode

/-- The mode in which an action writes; a delete writes nothing. -/
def Action.Kind.mode? : Action.Kind → Option WriteMode
  | create => some .create
  | index => some .index
  | delete => none

/-- One action of a bulk request. -/
structure Action where
  /-- What it does. -/
  kind : Action.Kind
  /-- The index, if it is not the default one of the request. -/
  index : Option String
  /-- The id of the document; without one the store makes one up. -/
  id : Option String
  /-- The version that the document must have. -/
  version : Option Version
  /-- The document, as JSON. -/
  source : Option Bytes
deriving DecidableEq

namespace Action

/-- Creates a document. -/
def create (id : Option String) (source : Bytes) : Action :=
  ⟨.create, none, id, none, some source⟩

/-- Puts a document, if the version is the expected one where one is given. -/
def put (id : String) (version : Option Version) (source : Bytes) : Action :=
  ⟨.index, none, some id, version, some source⟩

/-- Deletes a document, if the version is the expected one where one is given. -/
def delete (id : String) (version : Option Version) : Action :=
  ⟨.delete, none, some id, version, none⟩

end Action

/-- When writes become visible to searches. -/
inductive RefreshPolicy
  /-- Some time later. -/
  | none
  /-- Before the answer, without forcing it. -/
  | waitFor
  /-- At once. -/
  | immediate
deriving DecidableEq, Inhabited

namespace RefreshPolicy

/-- The word for a policy in a request. -/
def param : RefreshPolicy → String
  | .none => "false"
  | .waitFor => "wait_for"
  | .immediate => "true"

/-- The policy that a word in a request stands for; no word is a word too. -/
def ofParam? : String → Option RefreshPolicy
  | "" => some .immediate
  | "true" => some .immediate
  | "false" => some .none
  | "wait_for" => some .waitFor
  | _ => Option.none

/-- Whether the writes are visible when the answer comes. -/
def makesVisible (p : RefreshPolicy) : Bool := p != .none

end RefreshPolicy

end VersionedStore
