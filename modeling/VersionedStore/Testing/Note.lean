import VersionedStore.Client.Codec

/-!
# Notes

A small type of documents.

## Main definitions

* `Note` — a title and a counter
* `Note.codec` — its codec
* `Note.incremented` — the note with its counter one higher
* `Note.numbered` — a number of notes with their ids
-/

namespace VersionedStore

open Json

/-- A title and a counter. -/
structure Note where
  title : String
  /-- The counter. -/
  count : UInt64 := 0
deriving DecidableEq, Inhabited

namespace Note

def fields : List Field := [.required "title", .omitted "count"]

def toText (n : Note) : Text :=
  .ofMembers [("title", .ofString n.title), ("count", .ofNat n.count.toNat)]

def read : Reader Note := fun level t => do
  let r ← Record.ofText? fields level t
  return {
    title := ← r.required "title" Reader.string
    count := ← r.orDefault "count" 0 Reader.word64 }

/-- Writes notes and reads them back. -/
def codec : Codec Note := .ofReader read toText

/-- The note with its counter one higher. -/
def incremented (n : Note) : Note := { n with count := n.count + 1 }

/-- The note of a number, with its id. -/
def ofNumber (i : Nat) : String × Note :=
  (s!"note-{Decimal.padded 3 i}", ⟨s!"note {Decimal.text i}", 0⟩)

/-- The notes of the numbers below `n`, with their ids. -/
def numbered (n : Nat) : List (String × Note) := (List.range n).map ofNumber

end Note

end VersionedStore
