import VersionedStore.Wire.Item

/-!
# Replies on single documents

## Main definitions

* `Wire.GetReply` — the reply to the reading of a document
* `Wire.WriteReply` — the reply to the writing or deleting of a document
-/

namespace VersionedStore.Wire

open Json

/-- The reply to the reading of a document. -/
structure GetReply where
  index : String
  id : String
  /-- Whether there is such a document. -/
  found : Bool
  /-- The sequence number of its version. -/
  sequence : Option UInt64
  /-- The epoch of its version. -/
  epoch : Option UInt64
  /-- The document. -/
  source : Option Value

namespace GetReply

/-- The version of the document. -/
def version (r : GetReply) : Except Error (Option Version) :=
  match Version.ofParts? r.sequence r.epoch with
  | none => .error .halfVersion
  | some v => .ok v

/-- The document as octets. -/
def sourceBytes (r : GetReply) : Option Bytes := r.source.map Value.write

def fields : List Field :=
  [.omitted "_index", .required "_id", .required "found", .omitted "_seq_no",
    .omitted "_primary_term", .omitted "_source"]

def toText (r : GetReply) : Text :=
  .ofMembers (
    [("_index", .ofString r.index), ("_id", .ofString r.id), ("found", .bool r.found)] ++
    Record.given "_seq_no" (fun n => .ofNat n.toNat) r.sequence ++
    Record.given "_primary_term" (fun n => .ofNat n.toNat) r.epoch ++
    Record.given "_source" Value.toText r.source)

def read : Reader GetReply := fun level t => do
  let r ← Record.ofText? fields level t
  return {
    index := ← r.orDefault "_index" "" Reader.string
    id := ← r.required "_id" Reader.string
    found := ← r.required "found" Reader.bool
    sequence := ← r.optional "_seq_no" Reader.word64
    epoch := ← r.optional "_primary_term" Reader.word64
    source := ← r.optional "_source" Reader.value }

end GetReply

/-- The reply to the writing or deleting of a document. -/
structure WriteReply where
  index : String
  id : String
  /-- What was done, in a word. -/
  result : String
  /-- The sequence number of the version that was made. -/
  sequence : UInt64
  /-- The epoch of the version that was made. -/
  epoch : UInt64
deriving DecidableEq

namespace WriteReply

/-- The version that was made. -/
def version (r : WriteReply) : Version := ⟨r.epoch, r.sequence⟩

def fields : List Field :=
  [.omitted "_index", .required "_id", .required "result", .required "_seq_no",
    .required "_primary_term"]

def toText (r : WriteReply) : Text :=
  .ofMembers [("_index", .ofString r.index), ("_id", .ofString r.id),
    ("result", .ofString r.result), ("_seq_no", .ofNat r.sequence.toNat),
    ("_primary_term", .ofNat r.epoch.toNat)]

def read : Reader WriteReply := fun level t => do
  let r ← Record.ofText? fields level t
  return {
    index := ← r.orDefault "_index" "" Reader.string
    id := ← r.required "_id" Reader.string
    result := ← r.required "result" Reader.string
    sequence := ← r.required "_seq_no" Reader.word64
    epoch := ← r.required "_primary_term" Reader.word64 }

end WriteReply

end VersionedStore.Wire
