import VersionedStore.Data.Name
import VersionedStore.Duration
import VersionedStore.Store.Index
import VersionedStore.Wire.Document
import VersionedStore.Wire.Search

/-!
# The store

A store holds indices by name; writing to an index makes it. Every operation is a function
of the store: those that write answer with the store that they leave behind.

## Main definitions

* `StoreConfig` — the limits of a store and its epoch
* `Store` — the indices, and the ids that are made up
* `Store.write`, `Store.delete`, `Store.bulk` — writing
* `Store.get`, `Store.search`, `Store.count` — reading
* `Store.refresh` — publishing
-/

namespace VersionedStore

open Json

/-- The limits of a store and its epoch. -/
structure StoreConfig where
  /-- The greatest number of actions in a bulk request. -/
  maxActions : Nat := 10000
  /-- The greatest page of a search. -/
  maxPage : UInt32 := 10000
  /-- The longest lease of a cursor. -/
  maxLease : Duration := .ofSeconds (24 * 3600)
  /-- The epoch of all versions. -/
  epoch : UInt64 := 1
deriving DecidableEq

/-- A store. -/
structure Store where
  /-- The limits. -/
  config : StoreConfig
  /-- The indices by name. -/
  indices : Table Index
  /-- The ids that are made up. -/
  named : Names

namespace Store

/-- A store without indices. -/
def empty (config : StoreConfig) (ids : NameSupply := .documents) : Store :=
  ⟨config, .empty, .start ids⟩

def index (s : Store) (name : String) : Except StoreError Index :=
  match s.indices.find? name with
  | none => .error (.indexMissing name)
  | some ix => .ok ix

/-- The index of a name, an empty one if there is none. -/
def indexOrEmpty (s : Store) (name : String) : Index := (s.indices.find? name).getD .empty

/-- The store with an index at a name. -/
def setIndex (s : Store) (name : String) (ix : Index) : Store :=
  { s with indices := s.indices.insert name ix }

/-- Makes an index, if there is none. -/
def createIndex (s : Store) (name : String) : Store := s.setIndex name (s.indexOrEmpty name)

/-- Whether there is an index. -/
def hasIndex (s : Store) (name : String) : Bool := s.indices.contains name

/-- The number of live documents of an index. -/
def documentCount (s : Store) (name : String) : Nat := (s.indexOrEmpty name).live.size

/-- The next id that is made up, and the store after it. -/
def drawId (s : Store) : String × Store := (s.named.next, { s with named := s.named.rest })

/-- The document that some octets hold; it must be an object. -/
def parseSource (source : Bytes) : Except StoreError Value :=
  match Value.parse? source with
  | none => .error .json
  | some (.object members) => .ok (.object members)
  | some v => .error (.request (.sourceNotObject v.compact))

/-- Publishes an index, if there is one. -/
def publish (s : Store) (name : String) : Store :=
  match s.indices.find? name with
  | none => s
  | some ix => s.setIndex name ix.publish

/-- Publishes an index after a write, if the policy asks for it. -/
def settle (s : Store) (name : String) (refresh : RefreshPolicy) : Store :=
  if refresh.makesVisible then s.publish name else s

/-- An index is changed, or left as it is where the change is refused. -/
def change (s : Store) (name : String) (ix : Index)
    (changed : Except StoreError (Written × Index)) : Except StoreError Written × Store :=
  match changed with
  | .error e => (.error e, s.setIndex name ix)
  | .ok (w, ix) => (.ok w, s.setIndex name ix)

/-! ### Single documents -/

/-- Writes a document with an id. The index is made before the write is tried. -/
def writeAt (s : Store) (name : String) (mode : WriteMode) (id : String)
    (required : Option Version) (source : Value) : Except StoreError Written × Store :=
  let ix := s.indexOrEmpty name
  s.change name ix (ix.put s.config.epoch mode id required source)

/-- Deletes a document. The index is made if there is none. -/
def deleteAt (s : Store) (name id : String) (required : Option Version) :
    Except StoreError Written × Store :=
  let ix := s.indexOrEmpty name
  s.change name ix (ix.remove s.config.epoch id required)

/-- The id to write to, made up for a create without one, and how to write. -/
def address (s : Store) (kind : Action.Kind) (id : Option String) :
    Except StoreError (WriteMode × String) × Store :=
  match kind.mode?, id with
  | none, _ => (.error (.request .deleteIsNoWrite), s)
  | some mode, some id => (.ok (mode, id), s)
  -- Only a document that must be new can go without an id.
  | some .create, none => (.ok (.create, s.drawId.1), s.drawId.2)
  | some .index, none => (.error (.request .putWithoutId), s)

/-- Writes one document. -/
def write (s : Store) (name : String) (id : Option String) (kind : Action.Kind)
    (required : Option Version) (source : Bytes) (refresh : RefreshPolicy) :
    Except StoreError Written × Store :=
  match s.address kind id with
  | (.error e, s) => (.error e, s)
  | (.ok (mode, id), s) =>
    -- An id that was made up stays used, whatever becomes of the document.
    match parseSource source with
    | .error e => (.error e, s)
    | .ok source =>
      match s.writeAt name mode id required source with
      | (.error e, s) => (.error e, s)
      | (.ok w, s) => (.ok w, s.settle name refresh)

/-- Deletes one document. -/
def delete (s : Store) (name id : String) (required : Option Version) (refresh : RefreshPolicy) :
    Except StoreError Written × Store :=
  -- Unlike a delete in a bulk request, this one does not make its index.
  match s.index name with
  | .error e => (.error e, s)
  | .ok _ =>
    match s.deleteAt name id required with
    | (.error e, s) => (.error e, s)
    | (.ok w, s) => (.ok w, s.settle name refresh)

/-! ### Bulk requests -/

/-- The outcome of an action that was applied. -/
def success (name : String) (w : Written) : Wire.Outcome where
  index := some name
  id := some w.id
  status := w.result.status
  sequence := some w.version.sequence
  epoch := some w.version.epoch
  result := some w.result.word

/-- The outcome of an action that was refused. That a document is missing is a result, not a
cause. -/
def failure (name id : Option String) (e : StoreError) : Wire.Outcome :=
  match e with
  | .documentMissing _ => { index := name, id, status := e.status, result := some "not_found" }
  | _ => { index := name, id, status := e.status, cause := some e.toCause }

/-- Does what an action asks for to the document of an id. -/
def applyAt (s : Store) (name id : String) (a : Action) : Except StoreError Written × Store :=
  match a.kind.mode? with
  | none => s.deleteAt name id a.version
  | some mode =>
    match a.source with
    -- The index is made before the document is looked at, so it is there after a refusal too.
    | none => (.error (.request .noSource), s.createIndex name)
    | some source =>
      match parseSource source with
      | .error e => (.error e, s.createIndex name)
      | .ok source => s.writeAt name mode id a.version source

/-- The id of an action, made up for a create without one. -/
def actionId (s : Store) (a : Action) : Option String × Store :=
  match a.id with
  | some id => (some id, s)
  | none => if a.kind = .create then (some s.drawId.1, s.drawId.2) else (none, s)

/-- Applies one action. -/
def apply (s : Store) (defaultIndex : Option String) (a : Action) : Wire.Item × Store :=
  match a.index.or defaultIndex with
  | none => (⟨a.kind, failure none a.id (.request .noIndexNamed)⟩, s)
  | some name =>
    match s.actionId a with
    | (none, s) => (⟨a.kind, failure (some name) none (.request .noIdNamed)⟩, s)
    | (some id, s) =>
      match s.applyAt name id a with
      | (.ok w, s) => (⟨a.kind, success name w⟩, s)
      | (.error e, s) => (⟨a.kind, failure (some name) (some id) e⟩, s)

/-- Applies actions in order; none stops the others. -/
def applyAll (s : Store) (defaultIndex : Option String) : List Action → List Wire.Item × Store
  | [] => ([], s)
  | a :: as =>
    let first := s.apply defaultIndex a
    let others := first.2.applyAll defaultIndex as
    (first.1 :: others.1, others.2)

/-- The indices on which some item succeeded. -/
def touched (items : List Wire.Item) : List String :=
  items.filterMap fun i => if i.outcome.isSuccess then i.outcome.index else none

/-- Carries out a bulk request. -/
def bulk (s : Store) (defaultIndex : Option String) (actions : List Action)
    (refresh : RefreshPolicy) : Except StoreError Wire.BulkReply × Store :=
  if s.config.maxActions < actions.length then
    (.error (.request (.tooManyActions actions.length s.config.maxActions)), s)
  else
    let (items, s) := s.applyAll defaultIndex actions
    -- One and the same index may come several times; publishing it again changes nothing.
    let s := (touched items).foldl (fun s name => s.settle name refresh) s
    (.ok (.ofItems 0 items), s)

/-! ### Reading -/

/-- Reads a document; sees every write. -/
def get (s : Store) (name id : String) : Except StoreError Wire.GetReply := do
  let ix ← s.index name
  match ix.live.find? id with
  | none => return ⟨name, id, false, none, none, none⟩
  | some d =>
    return ⟨name, id, true, some d.version.sequence, some d.version.epoch, some d.source⟩

def hit (name : String) (versions : Bool) (e : String × Document) : Wire.RawHit where
  index := name
  id := e.1
  sequence := if versions then some e.2.version.sequence else none
  epoch := if versions then some e.2.version.epoch else none
  source := some e.2.source

/-- The published documents that a query selects, in order of their ids. -/
def search (s : Store) (name : String) (q : Query) (versions : Bool) :
    Except StoreError (List Wire.RawHit) := do
  return ((← s.index name).select q).map (hit name versions)

/-- The number of published documents that a query selects. -/
def count (s : Store) (name : String) (q : Query) : Except StoreError UInt64 := do
  return UInt64.ofNat ((← s.index name).select q).length

/-- Publishes an index. -/
def refresh (s : Store) (name : String) : Except StoreError Unit × Store :=
  match s.index name with
  | .error e => (.error e, s)
  | .ok ix => (.ok (), s.setIndex name ix.publish)

end Store

end VersionedStore
