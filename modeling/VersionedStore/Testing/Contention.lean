import VersionedStore.Client.Program

/-!
# Contended writes

A layer that acts like another writer who is always a moment faster. Before a call that expects
a version of a document, it writes that document again as it is: the document gets a new
version, and the call meets a conflict. Calls that expect no version pass through.

## Main definitions

* `Contention` — how often the other writer will act, and how often it did
* `Contention.targets` — the documents that a call expects a version of
* `Contention.rewrite` — the writing of a document as it is
* `Contention.layer` — the layer
-/

namespace VersionedStore

/-- The other writer. -/
structure Contention where
  /-- How many more times it will act; without a number, always. -/
  left : Option Nat
  /-- How many documents it wrote again. -/
  rewritten : Nat
deriving DecidableEq

namespace Contention

/-- Another writer who acts before every call that expects a version. -/
def always : Contention := ⟨none, 0⟩

/-- Another writer who acts so many times. The greatest number of 32 bits stands for always. -/
def times (n : UInt32) : Contention :=
  ⟨if n.toNat + 1 = Nat.pow 2 32 then none else some n.toNat, 0⟩

/-- The document that an action expects a version of, where the action is a write. -/
def target? (index : String) (a : Action) : Option (String × String) :=
  match a.kind, a.version, a.id with
  | .index, some _, some id => some (a.index.getD index, id)
  | _, _, _ => none

/-- The documents that a call expects a version of, each with its index. -/
def targets : Call → List (String × String)
  | .bulk index actions _ => actions.filterMap (target? index)
  | .write index ⟨some id, _, some _, _, _⟩ => [(index, id)]
  | .delete index id (some _) _ => [(index, id)]
  | _ => []

/-- Writes a document again as it is; tells whether there was one. -/
def rewrite (index id : String) : Program (Except ClientError Bool) :=
  .call (.get index id) fun
    | .error e => .done (.error e)
    | .ok none => .done (.ok false)
    | .ok (some d) =>
      .call (.write index (.put (some id) d.source)) fun r => .done (r.map fun _ => true)

/-- The other writer after it used up one of its turns; none if it had no more. -/
def takeTurn? (s : Contention) : Option Contention :=
  match s.left with
  | none => some s
  | some 0 => none
  | some (n + 1) => some { s with left := some n }

/-- Lets the other writer act on a document. -/
def interfere (s : Contention) (index id : String) :
    Program (Except ClientError Unit × Contention) :=
  match s.takeTurn? with
  | none => .done (.ok (), s)
  | some s =>
    (rewrite index id).bind fun
      | .error e => .done (.error e, s)
      | .ok false => .done (.ok (), s)
      | .ok true => .done (.ok (), { s with rewritten := s.rewritten + 1 })

/-- Lets the other writer act on documents in order, up to the first failure. -/
def interfereAll (s : Contention) : List (String × String) →
    Program (Except ClientError Unit × Contention)
  | [] => .done (.ok (), s)
  | (index, id) :: rest =>
    (s.interfere index id).bind fun
      | (.error e, s) => .done (.error e, s)
      | (.ok (), s) => s.interfereAll rest

/-- Lets the other writer act before a call. If it fails, so does the call. -/
def layer : Layer Contention := fun c s =>
  (s.interfereAll (targets c)).bind fun
    | (.error e, s) => .done (.error e, s)
    | (.ok (), s) => .call c fun r => .done (r, s)

end Contention

end VersionedStore
