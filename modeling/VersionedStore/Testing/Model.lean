import VersionedStore.Data.Table
import VersionedStore.Testing.Note

/-!
# The sequential model

What a list of writes does to an empty index, told without a store: the notes that are left,
and how many of the writes are applied. Beside it stands the plan of the batches that a session
makes of a number of writes.

## Main definitions

* `Model.Step` — a write
* `Model` — the notes, and the numbers of writes that were applied and refused
* `Model.run` — the model after a list of writes
* `BatchPlan` — a number of writes and the size of their batches
-/

namespace VersionedStore

/-- The notes, and the numbers of writes that were applied and refused. -/
structure Model where
  /-- The notes by id. -/
  documents : Table Note := .empty
  /-- The number of writes that were applied. -/
  succeeded : Nat := 0
  /-- The number of writes that were refused. -/
  failed : Nat := 0

namespace Model

/-- A write. -/
inductive Step
  /-- Puts a note in place of what is there. -/
  | upsert (id : String) (note : Note)
  /-- Makes a note; there must be none of that id. -/
  | create (id : String) (note : Note)
  /-- Deletes a note; there must be one of that id. -/
  | delete (id : String)
deriving DecidableEq

/-- The notes after a write; none if it is refused. -/
def Step.apply? (documents : Table Note) : Step → Option (Table Note)
  | upsert id note => some (documents.insert id note)
  | create id note => if documents.contains id then none else some (documents.insert id note)
  | delete id => if documents.contains id then some (documents.erase id) else none

/-- The model after one more write. -/
def step (m : Model) (s : Step) : Model :=
  match s.apply? m.documents with
  | some documents => { m with documents, succeeded := m.succeeded + 1 }
  | none => { m with failed := m.failed + 1 }

/-- The model after a list of writes. -/
def run (steps : List Step) : Model := steps.foldl step {}

end Model

/-- A number of writes and the size of their batches. -/
structure BatchPlan where
  /-- The number of writes. -/
  items : Nat
  /-- The size of a full batch. -/
  size : Nat
deriving DecidableEq

namespace BatchPlan

/-- The number of full batches. -/
def full (p : BatchPlan) : Nat := p.items / p.size

/-- The sizes of the batches, with the rest that the close sends. -/
def batches (p : BatchPlan) : List Nat :=
  List.replicate p.full p.size ++ if p.items % p.size = 0 then [] else [p.items % p.size]

end BatchPlan

end VersionedStore
