import VersionedStore.Proofs.Bulk.RoundTrip
import VersionedStore.Proofs.Client.Pages
import VersionedStore.Proofs.Json.Depth
import VersionedStore.Proofs.Store.Reach

/-!
# Calls without a transport

What a call about documents comes to when the operation of the store is applied directly. On the way
over a transport documents are printed and read again: those of answers always, queries always, and
those of a bulk request if they have line feeds. This changes nothing but floating point numbers
that are not read as what they were printed from.

## Main definitions

* `StoreCall` — the calls that are about the store and not about scrolls
* `Passage` — what becomes of queries and documents on the way
* `StoreCall.apply` — the operation of a call, applied to the store itself
* `StoreCall.Steady` — no number of a call and its answer is read as another one

## Main results

* `Store.bulk_of_alike` — a bulk request depends on documents only by what they are read as
* `StoreCall.apply_printed` — on the way nothing changes where all numbers are steady
-/

namespace VersionedStore

open Json

/-! ## Actions alike -/

namespace Action

/-- Whether two actions do the same: they differ at most in the octets of a document that is read
alike, or that nobody reads. -/
structure Alike (a b : Action) : Prop where
  kind : b.kind = a.kind
  index : b.index = a.index
  id : b.id = a.id
  version : b.version = a.version
  source : a.kind.hasSource = true →
    b.source.map Store.parseSource = a.source.map Store.parseSource

end Action

namespace Store

variable {a b : Action} (s : Store)

theorem applyAt_of_alike (h : a.Alike b) (name id : String) :
    s.applyAt name id b = s.applyAt name id a := by
  unfold applyAt
  rw [h.kind, h.version]
  cases kind : a.kind with
  | delete => rfl
  | create | index =>
    have source := h.source (by rw [kind]; rfl)
    cases ha : a.source with
    | none =>
      rw [ha, Option.map_none, Option.map_eq_none_iff] at source
      rw [source]
    | some bytes =>
      rw [ha, Option.map_some, Option.map_eq_some_iff] at source
      obtain ⟨bytes', hb, same⟩ := source
      simp only [hb, same]

theorem apply_of_alike (h : a.Alike b) (defaultIndex : Option String) :
    s.apply defaultIndex b = s.apply defaultIndex a := by
  have id : s.actionId b = s.actionId a := by
    unfold actionId
    rw [h.id, h.kind]
  unfold apply
  simp only [h.index, h.kind, h.id, id, applyAt_of_alike _ h]

theorem applyAll_of_alike {as bs : List Action} (h : List.Forall₂ Action.Alike as bs)
    (defaultIndex : Option String) : s.applyAll defaultIndex bs = s.applyAll defaultIndex as := by
  induction h generalizing s with
  | nil => rfl
  | cons first _ ih =>
    unfold applyAll
    simp only [s.apply_of_alike first, ih]

/-- A bulk request depends on its documents only by what they are read as. -/
theorem bulk_of_alike {as bs : List Action} (h : List.Forall₂ Action.Alike as bs)
    (defaultIndex : Option String) (refresh : RefreshPolicy) :
    s.bulk defaultIndex bs refresh = s.bulk defaultIndex as refresh := by
  unfold bulk
  simp only [h.length_eq, s.applyAll_of_alike h]

end Store

/-! ## Calls -/

/-- A call that is about the store and not about scrolls. -/
inductive StoreCall
  | bulk (index : String) (actions : List Action) (refresh : RefreshPolicy)
  | get (index id : String)
  | write (index : String) (request : WriteRequest)
  | delete (index id : String) (required : Option Version) (refresh : RefreshPolicy)
  | search (index : String) (body : Wire.SearchBody)
  | count (index : String) (query : Option Value)
  | refresh (index : String)

@[reducible] def StoreCall.call : StoreCall → Call
  | bulk index actions policy => .bulk index actions policy
  | get index id => .get index id
  | write index request => .write index request
  | delete index id required policy => .delete index id required policy
  | search index body => .search index body none
  | count index query => .count index query
  | refresh index => .refresh index

/-- What becomes of queries and documents on the way. -/
structure Passage where
  query : Value → Value
  /-- A document in a bulk request. -/
  payload : Bytes → Bytes
  /-- A document in an answer. -/
  shown : Value → Bytes

namespace Passage

/-- Nothing becomes of them. -/
def verbatim : Passage := ⟨id, id, Value.write⟩

/-- They are printed and read again. -/
def printed : Passage := ⟨Value.reread, Bulk.onOneLine, fun v => v.reread.write⟩

variable (p : Passage)

def action (a : Action) : Action := { a with source := a.source.map p.payload }

/-- The document that was read, if there is one. -/
def stored? (r : Wire.GetReply) : Option Stored :=
  match (Version.ofParts? r.sequence r.epoch).join, r.source with
  | some v, some source => if r.found then some ⟨r.id, v, p.shown source⟩ else none
  | _, _ => none

theorem stored?_found (index id : String) (v : Version) (source : Value) :
    p.stored? ⟨index, id, true, some v.sequence, some v.epoch, some source⟩ =
      some ⟨id, v, p.shown source⟩ := rfl

def hit (h : Wire.RawHit) : Wire.Hit :=
  ⟨h.id, (Version.ofParts? h.sequence h.epoch).join,
    (h.source.map p.shown).getD Wire.emptyDocument⟩

end Passage

namespace StoreCall

def acknowledged (w : Written) : Acknowledgement := ⟨w.id, w.version, w.result.word⟩

/-- The operation of a call, applied to the store itself. -/
def apply (p : Passage) (s : Store) : (c : StoreCall) → Except StoreError c.call.Answer × Store
  | bulk index actions policy =>
    let r := s.bulk (some index) (actions.map p.action) policy
    (r.1.map (·.items), r.2)
  | get index id => ((s.get index id).map p.stored?, s)
  | write index w =>
    -- A document without an id must be new, whatever the mode.
    let kind := if w.id.isSome then w.mode.kind else .create
    let r := s.write index w.id kind w.required w.payload w.refresh
    (r.1.map acknowledged, r.2)
  | delete index id required policy =>
    let r := s.delete index id required policy
    (r.1.map acknowledged, r.2)
  | search index b =>
    let found := do s.search index (← Server.query (b.query.map p.query)) b.versions
    (found.map fun hits => ⟨(hits.take b.size.toNat).map p.hit,
      .exact (UInt64.ofNat hits.length), none⟩, s)
  | count index query => (do s.count index (← Server.query (query.map p.query)), s)
  | refresh index => s.refresh index

/-! ## Steady numbers -/

/-- No number of a call and its answer is read as another one than it was printed from. -/
def Steady (s : Store) : StoreCall → Prop
  | bulk _ actions _ => ∀ a ∈ actions, a.kind.hasSource = true → ∀ source ∈ a.source,
      octet '\n' ∈ source → ∀ v, Value.parse? source = some v → v.Steady
  | get index id => ∀ d, s.document? index id = some d → d.source.Steady
  | search index b => (∀ v ∈ b.query, v.Steady) ∧
      ∀ id d, (s.indexOrEmpty index).published.find? id = some d → d.source.Steady
  | count _ query => ∀ v ∈ query, v.Steady
  | write .. | delete .. | refresh _ => True

variable {s : Store} {index : String}

private theorem query_printed {query : Option Value} (steady : ∀ v ∈ query, v.Steady) :
    query.map Passage.printed.query = query.map Passage.verbatim.query := by
  cases query with
  | none => rfl
  | some v => exact congrArg some (Value.reread_eq (steady v rfl))

private theorem shown_printed {v : Value} (steady : v.Steady) :
    Passage.printed.shown v = Passage.verbatim.shown v :=
  congrArg Value.write (Value.reread_eq steady)

/-- A document on one line is read as the document that it was, if its numbers are steady. -/
private theorem parseSource_onOneLine {source : Bytes}
    (steady : octet '\n' ∈ source → ∀ v, Value.parse? source = some v → v.Steady) :
    Store.parseSource (Bulk.onOneLine source) = Store.parseSource source := by
  unfold Bulk.onOneLine
  split
  · next broken =>
    cases parsed : Value.parse? source with
    | none => rfl
    | some v =>
      have again : Value.parse? v.write = Value.parse? source := by
        rw [Value.parse?_write_of_proper (Value.proper_of_parse? parsed)
          (Value.depth_le_of_parse? parsed), Value.reread_eq (steady broken v parsed), parsed]
      simp only [Option.map_some, Option.getD_some]
      unfold Store.parseSource
      rw [again]
  · rfl

/-- An action does what it did before it was sent, if the numbers of its document are steady. -/
theorem alike_printed {a : Action} (steady : a.kind.hasSource = true → ∀ source ∈ a.source,
    octet '\n' ∈ source → ∀ v, Value.parse? source = some v → v.Steady) :
    (Passage.verbatim.action a).Alike (Passage.printed.action a) := by
  refine ⟨rfl, rfl, rfl, rfl, fun source => ?_⟩
  cases hs : a.source with
  | none => simp [Passage.action, hs]
  | some bytes =>
    simp only [Passage.action, hs, Option.map_some]
    exact congrArg some (parseSource_onOneLine (steady source bytes hs))

/-- On the way nothing changes where all numbers are steady. -/
theorem apply_printed (c : StoreCall) (steady : c.Steady s) :
    c.apply .printed s = c.apply .verbatim s := by
  cases c with
  | bulk index actions refresh =>
    have alike : List.Forall₂ Action.Alike (actions.map Passage.verbatim.action)
        (actions.map Passage.printed.action) := by
      rw [List.forall₂_map_left_iff, List.forall₂_map_right_iff, List.forall₂_same]
      exact fun a ha => alike_printed (steady a ha)
    simp only [apply, s.bulk_of_alike alike]
  | get index id =>
    obtain ⟨-, missing | absent⟩ | ⟨d, live, found⟩ := s.get_cases index id
    · simp only [apply, missing]
      rfl
    · simp only [apply, absent]
      rfl
    · simp only [apply, found, Except.map, Passage.stored?_found, shown_printed (steady d live)]
  | search index b =>
    obtain ⟨query, documents⟩ := steady
    simp only [apply, query_printed query]
    cases Server.query (b.query.map Passage.verbatim.query) with
    | error e => rfl
    | ok q =>
      obtain missing | found := s.search_cases index q b.versions
      · simp only [bind, Except.bind, missing]
        rfl
      · simp only [bind, Except.bind, found, Except.map]
        have shown : ∀ h ∈ (((s.indexOrEmpty index).select q).map
            (Store.hit index b.versions)).take b.size.toNat,
            Passage.printed.hit h = Passage.verbatim.hit h := by
          intro h hh
          obtain ⟨e, he, rfl⟩ := List.mem_map.1 (List.mem_of_mem_take hh)
          have published := (((s.indexOrEmpty index).finds_select q).mem_iff e.1 e.2).1 he
          have same := shown_printed (documents e.1 e.2 published.1)
          simp only [Passage.hit, Store.hit, Option.map_some, same]
        rw [List.map_congr_left shown]
  | count index query => simp only [apply, query_printed steady]
  | write | delete | refresh => rfl

end StoreCall

end VersionedStore
