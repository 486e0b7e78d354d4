import VersionedStore.Client.Program
import VersionedStore.Data.Table

/-!
# A stand-in for a store

Answers calls from a table of documents, whatever the index. It keeps record of the calls, and
conflicts, failures and pages can be arranged beforehand.

## Main definitions

* `Memory` — documents, arrangements and records
* `Memory.apply` — one action of a bulk request
* `Memory.transport` — the answers to calls
-/

namespace VersionedStore

/-- A stand-in for a store. -/
structure Memory where
  /-- The documents by id. -/
  documents : Table Stored := .empty
  /-- The number of versions that were made. -/
  sequence : Nat := 0
  /-- The actions of the bulk requests, in order. -/
  bulkCalls : List (List Action) := []
  /-- Why the next bulk requests will fail. -/
  bulkFailures : List String := []
  /-- How many of the next guarded writes will meet a conflict. -/
  forcedConflicts : Nat := 0
  /-- The number of single writes. -/
  writes : Nat := 0
  /-- The pages that searches will get. -/
  pages : List Wire.Page := []
  /-- The handles that were advanced. -/
  advances : List String := []
  /-- The handles that were released. -/
  releases : List String := []
  refreshes : Nat := 0

namespace Memory

/-- The next version, and the state after it. -/
def draw (m : Memory) : Version × Memory :=
  (⟨1, UInt64.ofNat (m.sequence + 1)⟩, { m with sequence := m.sequence + 1 })

/-- The id of a document that has been given none. -/
def madeUpId (m : Memory) : String := s!"auto-{Decimal.text (m.sequence + 1)}"

/-- Puts a document in place of what is there. -/
def put (m : Memory) (id : String) (source : Bytes) : Version × Memory :=
  let (v, m) := m.draw
  (v, { m with documents := m.documents.insert id ⟨id, v, source⟩ })

/-- Removes a document. -/
def remove (m : Memory) (id : String) : Version × Memory :=
  let (v, m) := m.draw
  (v, { m with documents := m.documents.erase id })

/-- Why a document has not the required version. -/
def mismatch? (m : Memory) (id : String) : Option Version → Option String
  | none => none
  | some v =>
    match m.documents.find? id with
    | none => some s!"expected {v.text}, document missing"
    | some d => if d.version = v then none else some s!"expected {v.text}, current {d.version.text}"

/-- Uses up one of the conflicts that were arranged. -/
def forceConflict (m : Memory) : Memory := { m with forcedConflicts := m.forcedConflicts - 1 }

/-- The words for a conflict that was arranged. -/
def forcedText : String := "forced conflict"

/-- The words for a document that exists already. -/
def existsText : String := "document already exists"

/-- Why an action is refused: its status and the reason. -/
def refusal? (m : Memory) (a : Action) (id : String) : Option (UInt16 × String) × Memory :=
  if a.kind = .create ∧ m.documents.contains id then (some (409, existsText), m)
  -- An arranged conflict is used up by guarded requests only.
  else if a.version.isSome ∧ 0 < m.forcedConflicts then (some (409, forcedText), m.forceConflict)
  else if a.kind = .delete ∧ !m.documents.contains id then (some (404, "not found"), m)
  else ((m.mismatch? id a.version).map fun reason => (409, reason), m)

/-- The outcome of an action that was applied. -/
def success (id : String) (status : UInt16) (result : String) (v : Version) : Wire.Outcome :=
  { id := some id, status, result := some result, sequence := some v.sequence,
    epoch := some v.epoch }

/-- What a write does to a document, with its status. -/
def writeResult (m : Memory) (id : String) : UInt16 × String :=
  if m.documents.contains id then (200, "updated") else (201, "created")

/-- Applies one action of a bulk request. -/
def apply (m : Memory) (a : Action) : Wire.Item × Memory :=
  let id := a.id.getD m.madeUpId
  match m.refusal? a id with
  | (some (status, reason), m) =>
    (⟨a.kind, { id := some id, status, cause := some ⟨"mock_exception", reason⟩ }⟩, m)
  | (none, m) =>
    if a.kind = .delete then
      let (v, m) := m.remove id
      (⟨a.kind, success id 200 "deleted" v⟩, m)
    else
      let (status, result) := m.writeResult id
      let (v, m) := m.put id (a.source.getD [])
      (⟨a.kind, success id status result v⟩, m)

/-- Applies actions in order. -/
def applyAll (m : Memory) : List Action → List Wire.Item × Memory
  | [] => ([], m)
  | a :: as =>
    let first := m.apply a
    let others := first.2.applyAll as
    (first.1 :: others.1, others.2)

/-- Answers a bulk request. -/
def bulk (m : Memory) (actions : List Action) : Except ClientError (List Wire.Item) × Memory :=
  -- Requests that fail are recorded as well.
  let m := { m with bulkCalls := m.bulkCalls ++ [actions] }
  match m.bulkFailures with
  | reason :: rest => (.error (.transport reason true), { m with bulkFailures := rest })
  | [] =>
    let (items, m) := m.applyAll actions
    (.ok items, m)

/-- Answers a write. -/
def write (m : Memory) (w : WriteRequest) : Except ClientError Acknowledgement × Memory :=
  let m := { m with writes := m.writes + 1 }
  let id := w.id.getD m.madeUpId
  if w.required.isSome ∧ 0 < m.forcedConflicts then
    (.error (.conflict id forcedText), m.forceConflict)
  else if w.mode = .create ∧ m.documents.contains id then (.error (.conflict id existsText), m)
  else
    match m.mismatch? id w.required with
    | some reason => (.error (.conflict id reason), m)
    | none =>
      let (_, result) := m.writeResult id
      let (v, m) := m.put id w.payload
      (.ok ⟨id, v, result⟩, m)

/-- Answers a delete. -/
def delete (m : Memory) (id : String) (required : Option Version) :
    Except ClientError Acknowledgement × Memory :=
  if m.documents.contains id then
    match m.mismatch? id required with
    | some reason => (.error (.conflict id reason), m)
    | none =>
      let (v, m) := m.remove id
      (.ok ⟨id, v, "deleted"⟩, m)
  else (.error (.notFound id), m)

/-- A page without hits. -/
def emptyPage (handle : Option String) : Wire.Page := ⟨[], .exact 0, handle⟩

/-- The next page that was arranged, or one without hits. -/
def nextPage (m : Memory) (handle : Option String) : Wire.Page × Memory :=
  match m.pages with
  | [] => (emptyPage handle, m)
  | p :: rest => (p, { m with pages := rest })

/-- Answers a call. -/
def transport : Transport Memory
  | .bulk _ actions _, m => m.bulk actions
  | .get _ id, m => (.ok (m.documents.find? id), m)
  | .write _ w, m => m.write w
  | .delete _ id required _, m => m.delete id required
  | .search .., m => let (p, m) := m.nextPage none; (.ok p, m)
  | .advance handle _, m =>
    let (p, m) := { m with advances := m.advances ++ [handle] }.nextPage (some handle)
    (.ok p, m)
  | .release handle, m => (.ok (), { m with releases := m.releases ++ [handle] })
  | .count .., m => (.ok (UInt64.ofNat m.documents.size), m)
  | .refresh _, m => (.ok (), { m with refreshes := m.refreshes + 1 })

end Memory

end VersionedStore
