import VersionedStore.Wire.Item

/-!
# Searches on the wire

A search answers with a page of hits and the total number of matches. A search that is to
go on names its cursor by a handle; further pages are asked for, and cursors are released,
by handle.

## Main definitions

* `Wire.SearchBody`, `Wire.SearchReply` — a search and its answer
* `Wire.RawHit`, `Wire.Hit` — a hit as it travels, and as it is handed on
* `Wire.Page` — the hits of one answer, with the total and the handle
* `Wire.ScrollBody`, `Wire.ClearBody`, `Wire.ClearReply` — going on and releasing
* `Wire.CountBody`, `Wire.CountReply` — counting
-/

namespace VersionedStore.Wire

open Json

/-! ### Requests -/

/-- The body of a search. -/
structure SearchBody where
  /-- The query; without one everything matches. -/
  query : Option Value
  /-- The greatest number of hits on a page. -/
  size : UInt32
  /-- Whether the hits tell their versions. -/
  versions : Bool

namespace SearchBody

/-- A search whose hits tell their versions. -/
def ofQuery (query : Option Value) (size : UInt32) : SearchBody := ⟨query, size, true⟩

def toText (b : SearchBody) : Text :=
  .ofMembers (
    Record.given "query" Value.toText b.query ++
    [("size", .ofNat b.size.toNat), ("seq_no_primary_term", .bool b.versions)])

def read : Reader SearchBody := fun level t => do
  let r ← Record.ofText? [.omitted "query", .required "size", .omitted "seq_no_primary_term"]
    level t
  return {
    query := ← r.optional "query" Reader.value
    size := ← r.required "size" Reader.word32
    versions := ← r.orDefault "seq_no_primary_term" false Reader.bool }

end SearchBody

/-- The body of a request for the next page. -/
structure ScrollBody where
  /-- The lease from now on. -/
  lease : String
  handle : String
deriving DecidableEq

namespace ScrollBody

/-- The text of the request. -/
def toText (b : ScrollBody) : Text :=
  .ofMembers [("scroll", .ofString b.lease), ("scroll_id", .ofString b.handle)]

/-- Reads the request. -/
def read : Reader ScrollBody := fun level t => do
  let r ← Record.ofText? [.required "scroll", .required "scroll_id"] level t
  return ⟨← r.required "scroll" Reader.string, ← r.required "scroll_id" Reader.string⟩

end ScrollBody

/-- The body of a request to release cursors. -/
structure ClearBody where
  handles : List String
deriving DecidableEq

namespace ClearBody

/-- The text of the request. -/
def toText (b : ClearBody) : Text :=
  .ofMembers [("scroll_id", .array (b.handles.map .ofString))]

/-- Reads the request. -/
def read : Reader ClearBody := fun level t => do
  let r ← Record.ofText? [.required "scroll_id"] level t
  return ⟨← r.required "scroll_id" (Reader.list Reader.string)⟩

end ClearBody

/-- The answer to a request to release cursors. -/
structure ClearReply where
  /-- Whether the request was carried out. -/
  succeeded : Bool
  /-- The number of cursors that were released. -/
  freed : UInt32
deriving DecidableEq

namespace ClearReply

/-- The text of the answer. -/
def toText (r : ClearReply) : Text :=
  .ofMembers [("succeeded", .bool r.succeeded), ("num_freed", .ofNat r.freed.toNat)]

/-- Reads the answer. -/
def read : Reader ClearReply := fun level t => do
  let r ← Record.ofText? [.required "succeeded", .required "num_freed"] level t
  return ⟨← r.required "succeeded" Reader.bool, ← r.required "num_freed" Reader.word32⟩

end ClearReply

/-- The body of a request to count matches. -/
structure CountBody where
  /-- The query; without one everything matches. -/
  query : Option Value

namespace CountBody

/-- The text of the request. -/
def toText (b : CountBody) : Text := .ofMembers (Record.given "query" Value.toText b.query)

/-- Reads the request. -/
def read : Reader CountBody := fun level t => do
  let r ← Record.ofText? [.omitted "query"] level t
  return ⟨← r.optional "query" Reader.value⟩

end CountBody

/-- The answer to a request to count matches. -/
structure CountReply where
  /-- The number of matches. -/
  count : UInt64
deriving DecidableEq

namespace CountReply

/-- The text of the answer. -/
def toText (r : CountReply) : Text := .ofMembers [("count", .ofNat r.count.toNat)]

/-- Reads the answer. -/
def read : Reader CountReply := fun level t => do
  let r ← Record.ofText? [.required "count"] level t
  return ⟨← r.required "count" Reader.word64⟩

end CountReply

/-! ### Answers to searches -/

/-- How the total of a search relates to the number of matches. -/
inductive TotalRelation
  /-- It is the number of matches. -/
  | exact
  /-- It is at most the number of matches. -/
  | lowerBound
deriving DecidableEq, Inhabited

namespace TotalRelation

def word : TotalRelation → String
  | .exact => "eq"
  | .lowerBound => "gte"

/-- The relation that a word stands for. -/
def ofWord? : String → Option TotalRelation
  | "eq" => some .exact
  | "gte" => some .lowerBound
  | _ => none

/-- Reads the null below the word, where the relation is the only member of an object. -/
def readTagged (key : String) : Reader TotalRelation
  | _, .null => ofWord? key
  | _, _ => none

def read : Reader TotalRelation
  | _, .string s => (Symbol.meaning? s).bind ofWord?
  | level, t => Record.tagged? readTagged level t

end TotalRelation

/-- The total of a search. -/
structure Total where
  /-- The number. -/
  value : UInt64
  /-- How it relates to the number of matches. -/
  relation : TotalRelation
deriving DecidableEq, Inhabited

namespace Total

/-- The number of matches. -/
def exact (n : UInt64) : Total := ⟨n, .exact⟩

/-- Whether the total is the number of matches. -/
def isExact (t : Total) : Bool := t.relation == .exact

def toText (t : Total) : Text :=
  .ofMembers [("value", .ofNat t.value.toNat), ("relation", .ofString t.relation.word)]

def read : Reader Total := fun level t => do
  let r ← Record.ofText? [.required "value", .required "relation"] level t
  return ⟨← r.required "value" Reader.word64, ← r.required "relation" TotalRelation.read⟩

end Total

/-- A hit as it travels. -/
structure RawHit where
  index : String
  id : String
  /-- The sequence number of its version. -/
  sequence : Option UInt64
  /-- The epoch of its version. -/
  epoch : Option UInt64
  /-- The document. -/
  source : Option Value

/-- A hit as it is handed on. -/
structure Hit where
  id : String
  /-- Its version, if the store tells it. -/
  version : Option Version
  /-- The document as JSON. -/
  source : Bytes
deriving DecidableEq

/-- The document of a hit that comes without one. -/
def emptyDocument : Bytes := Json.word "\x7b\x7d"

namespace RawHit

def fields : List Field :=
  [.omitted "_index", .required "_id", .omitted "_seq_no", .omitted "_primary_term",
    .omitted "_source"]

def toText (h : RawHit) : Text :=
  .ofMembers (
    [("_index", .ofString h.index), ("_id", .ofString h.id)] ++
    Record.given "_seq_no" (fun n => .ofNat n.toNat) h.sequence ++
    Record.given "_primary_term" (fun n => .ofNat n.toNat) h.epoch ++
    Record.given "_source" Value.toText h.source)

def read : Reader RawHit := fun level t => do
  let r ← Record.ofText? fields level t
  return {
    index := ← r.orDefault "_index" "" Reader.string
    id := ← r.required "_id" Reader.string
    sequence := ← r.optional "_seq_no" Reader.word64
    epoch := ← r.optional "_primary_term" Reader.word64
    source := ← r.optional "_source" Reader.value }

/-- The hit as it is handed on. -/
def toHit (h : RawHit) : Except Error Hit :=
  match Version.ofParts? h.sequence h.epoch with
  | none => .error .halfVersion
  | some version => .ok ⟨h.id, version, (h.source.map Value.write).getD emptyDocument⟩

end RawHit

/-- The hits of one answer. -/
structure Page where
  /-- The hits, in order. -/
  hits : List Hit
  /-- The total of the search. -/
  total : Total
  /-- The handle for the next page, if the search can go on. -/
  handle : Option String
deriving DecidableEq

/-- The answer to a search or to a request for the next page. -/
structure SearchReply where
  /-- The handle for the next page. -/
  handle : Option String
  /-- Milliseconds that the store took. -/
  took : UInt64
  /-- The total of the search. -/
  total : Total
  /-- The hits of the page. -/
  hits : List RawHit

namespace SearchReply

/-- The text of an answer. -/
def toText (r : SearchReply) : Text :=
  .ofMembers (
    Record.given "_scroll_id" .ofString r.handle ++
    [("took", .ofNat r.took.toNat),
      ("hits", .ofMembers [("total", r.total.toText),
        ("hits", .array (r.hits.map RawHit.toText))])])

/-- Reads the total and the hits. -/
def readHits : Reader (Total × List RawHit) := fun level t => do
  let r ← Record.ofText? [.required "total", .required "hits"] level t
  return (← r.required "total" Total.read, ← r.required "hits" (Reader.list RawHit.read))

/-- Reads an answer. -/
def read : Reader SearchReply := fun level t => do
  let r ← Record.ofText? [.omitted "_scroll_id", .omitted "took", .required "hits"] level t
  let handle ← r.optional "_scroll_id" Reader.string
  let took ← r.orDefault "took" 0 Reader.word64
  let (total, hits) ← r.required "hits" readHits
  return { handle, took, total, hits }

/-- The page of an answer. -/
def toPage (r : SearchReply) : Except Error Page := do
  return ⟨← r.hits.mapM RawHit.toHit, r.total, r.handle⟩

end SearchReply

end VersionedStore.Wire
