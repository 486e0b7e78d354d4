import VersionedStore.Store.Query

/-!
# One index

An index holds its live documents, which reads see, and the documents that were last
published, which searches see. Every successful write and delete draws the next sequence
number; a refused one draws none and changes nothing.

## Main definitions

* `Document` — a document with its version
* `Index` — live and published documents, and the number of writes
* `Index.put`, `Index.remove` — writing and deleting
* `Index.publish` — what searches see from now on
-/

namespace VersionedStore

open Json

/-- A document with its version. -/
structure Document where
  /-- The version that the last write made. -/
  version : Version
  /-- The document. -/
  source : Value

/-- What a successful write did. -/
inductive WriteResult
  | created
  | updated
  | deleted
deriving DecidableEq, Inhabited

namespace WriteResult

/-- The word for what was done. -/
def word : WriteResult → String
  | created => "created"
  | updated => "updated"
  | deleted => "deleted"

/-- The status of a successful write. -/
def status : WriteResult → UInt16
  | created => 201
  | updated => 200
  | deleted => 200

end WriteResult

/-- The acknowledgement of a write. -/
structure Written where
  id : String
  /-- The version that was made. -/
  version : Version
  /-- What was done. -/
  result : WriteResult
deriving DecidableEq

/-- An index. -/
structure Index where
  /-- What reads see. -/
  live : Table Document
  /-- What searches see. -/
  published : Table Document
  /-- The number of successful writes and deletes; also the next sequence number. -/
  writes : Nat
  /-- Whether there were writes since the last publication. -/
  dirty : Bool

namespace Index

/-- An index without documents. -/
def empty : Index := ⟨.empty, .empty, 0, false⟩

instance : Inhabited Index := ⟨empty⟩

/-- The version that the next write makes. -/
def nextVersion (ix : Index) (epoch : UInt64) : Version := ⟨epoch, UInt64.ofNat ix.writes⟩

/-- The document of an id, which must have the required version if one is required. -/
def current (ix : Index) (id : String) (required : Option Version) :
    Except StoreError (Option Document) :=
  match required, ix.live.find? id with
  | none, found => .ok found
  -- A document that is missing is a conflict here, as it has no version at all.
  | some v, none => .error (.conflict id (.noDocument v))
  | some v, some d =>
    if d.version = v then .ok (some d) else .error (.conflict id (.otherVersion v d.version))

/-- The index after one more write. -/
def written (ix : Index) (live : Table Document) : Index :=
  { ix with live, writes := ix.writes + 1, dirty := true }

/-- Writes a document. -/
def put (ix : Index) (epoch : UInt64) (mode : WriteMode) (id : String)
    (required : Option Version) (source : Value) : Except StoreError (Written × Index) :=
  if mode = .create ∧ required.isSome then .error (.request .guardedCreate)
  else
    match ix.current id required with
    | .error e => .error e
    | .ok found =>
      match mode, found with
      | .create, some d => .error (.conflict id (.alreadyExists d.version))
      | _, _ =>
        -- A put makes a new version, also where it puts the same document again.
        let version := ix.nextVersion epoch
        let result := if found.isSome then .updated else .created
        .ok (⟨id, version, result⟩, ix.written (ix.live.insert id ⟨version, source⟩))

/-- Deletes a document. -/
def remove (ix : Index) (epoch : UInt64) (id : String) (required : Option Version) :
    Except StoreError (Written × Index) :=
  match ix.current id required with
  | .error e => .error e
  | .ok none => .error (.documentMissing id)
  -- A delete takes a number of its own, so the document that comes next has another version.
  | .ok (some _) =>
    .ok (⟨id, ix.nextVersion epoch, .deleted⟩, ix.written (ix.live.erase id))

/-- Makes searches see the live documents. -/
def publish (ix : Index) : Index :=
  if ix.dirty then { ix with published := ix.live, dirty := false } else ix

/-- The published documents that a query selects, in order of their ids. -/
def select (ix : Index) (q : Query) : List (String × Document) :=
  ix.published.toList.filter fun e => q.accepts e.1 e.2.source

end Index

end VersionedStore
