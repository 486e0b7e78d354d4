import Mathlib.Data.List.Range
import VersionedStore.Proofs.Data.Table
import VersionedStore.Store.Basic

/-!
# What operations leave behind

Every successful write or delete leaves a receipt. The receipts of an operation, which can be
read off its answer, tell all that it did: which documents it touched, the versions that they
have now, and how far each index counted.

## Main definitions

* `Receipt` — the record of a successful write or delete
* `Receipt.ofAnswer`, `Receipt.ofItem?` — the receipts that answers hold
* `Store.Evolves` — a store and what becomes of it, with the receipts in between
* `Store.SameDocuments`, `Store.Alike` — stores with the same documents, and with the same
  indices up to empty ones

## Main results

* `Store.Evolves.trans`, `Store.Evolves.one` — receipts of one operation after another, and of one
-/

namespace VersionedStore

open Json

/-! ## Receipts -/

/-- The record of a successful write or delete. -/
structure Receipt where
  index : String
  id : String
  /-- The version that was made. -/
  version : Version
  /-- Whether there is a document now. -/
  kept : Bool
deriving DecidableEq

namespace Receipt

/-- Whether a receipt is about a document. -/
def concerns (name id : String) (r : Receipt) : Bool := r.index == name && r.id == id

/-- The version of the document that an operation left, if it left one. -/
def left (r : Receipt) : Option Version := if r.kept then some r.version else none

/-- The receipt in the answer to a write or a delete. -/
def ofAnswer (name : String) : Except StoreError Written → List Receipt
  | .error _ => []
  | .ok w => [⟨name, w.id, w.version, w.result != .deleted⟩]

/-- The receipt in the outcome of an action. -/
def ofItem? (i : Wire.Item) : Option Receipt :=
  if i.outcome.isSuccess then do
    return ⟨← i.outcome.index, ← i.outcome.id, ← i.outcome.version, i.kind != .delete⟩
  else none

/-- The receipts in the answer to a bulk request. -/
def ofBulk : Except StoreError Wire.BulkReply → List Receipt
  | .error _ => []
  | .ok r => r.items.filterMap ofItem?

end Receipt

/-- The version of a document after some operations, given the one before them: what the latest
receipt about it tells. -/
def versionAfter (log : List Receipt) (name id : String) (before : Option Version) :
    Option Version :=
  ((log.filter (·.concerns name id)).getLast?).elim before Receipt.left

theorem versionAfter_append (log more : List Receipt) (name id : String)
    (before : Option Version) :
    versionAfter (log ++ more) name id before =
      versionAfter more name id (versionAfter log name id before) := by
  unfold versionAfter
  rw [List.filter_append, List.getLast?_append]
  cases (more.filter (·.concerns name id)).getLast? <;> rfl

/-! ## Stores -/

namespace Store

variable {s s' : Store} {name id : String}

@[simp] theorem indexOrEmpty_setIndex (s : Store) (name other : String) (ix : Index) :
    (s.setIndex name ix).indexOrEmpty other =
      if other = name then ix else s.indexOrEmpty other := by
  unfold indexOrEmpty setIndex
  rw [Table.find?_insert]
  split <;> rfl

@[simp] theorem config_setIndex (s : Store) (name : String) (ix : Index) :
    (s.setIndex name ix).config = s.config := rfl

/-- The live document of an id in an index. -/
def document? (s : Store) (name id : String) : Option Document :=
  (s.indexOrEmpty name).live.find? id

/-- How many writes an index counts. -/
def writes (s : Store) (name : String) : Nat := (s.indexOrEmpty name).writes

theorem writes_eq_find? (s : Store) (name : String) : s.writes name =
    (Entries.find? name (s.indices.toList.map fun e => (e.1, e.2.writes))).getD 0 := by
  rw [Entries.find?_map, writes, indexOrEmpty, Table.find?, Table.toList]
  cases Entries.find? name s.indices.entries <;> rfl

def numbered (s : Store) (n : Nat) : Version := ⟨s.config.epoch, UInt64.ofNat n⟩

/-- Whether two stores have the same live documents and count alike. -/
structure SameDocuments (s s' : Store) : Prop where
  config : s'.config = s.config
  live : ∀ name, (s'.indexOrEmpty name).live = (s.indexOrEmpty name).live
  writes : ∀ name, s'.writes name = s.writes name

/-- Whether two stores have the same indices, where an index that is missing is an empty one. -/
structure Alike (s s' : Store) : Prop where
  config : s'.config = s.config
  indices : ∀ name, s'.indexOrEmpty name = s.indexOrEmpty name
  named : s'.named = s.named

theorem Alike.sameDocuments (h : s.Alike s') : s.SameDocuments s' where
  config := h.config
  live name := by rw [h.indices]
  writes name := by rw [writes, h.indices, writes]

theorem alike_setIndex (s : Store) (name : String) :
    s.Alike (s.setIndex name (s.indexOrEmpty name)) where
  config := rfl
  indices other := by
    rw [indexOrEmpty_setIndex]
    split
    · next h => rw [h]
    · rfl
  named := rfl

theorem SameDocuments.document?_eq (h : s.SameDocuments s') (name id : String) :
    s'.document? name id = s.document? name id := by
  rw [document?, h.live, document?]

/-- A store becomes another one by the operations of some receipts: every index counts on by its
receipts, whose versions have the numbers in between; the latest receipt about a document tells
its version; a document without a receipt is the same; and one that is new was sent as JSON. -/
structure Evolves (s : Store) (log : List Receipt) (s' : Store) : Prop where
  config : s'.config = s.config
  counts : ∀ name, s'.writes name = s.writes name + (log.filter (·.index == name)).length
  -- Consecutive numbers: this is what keeps a version from coming back.
  versions : ∀ name, (log.filter (·.index == name)).map Receipt.version =
    (List.range' (s.writes name) (log.filter (·.index == name)).length).map s.numbered
  left : ∀ name id, (s'.document? name id).map Document.version =
    versionAfter log name id ((s.document? name id).map Document.version)
  same : ∀ name id, log.filter (·.concerns name id) = [] →
    s'.document? name id = s.document? name id
  sent : ∀ name id d, s'.document? name id = some d →
    s.document? name id = some d ∨ ∃ bytes, parseSource bytes = .ok d.source

namespace Evolves

variable {s s' s'' : Store} {log more : List Receipt}

theorem quiet (h : s.SameDocuments s') : s.Evolves [] s' where
  config := h.config
  counts name := h.writes name
  versions name := rfl
  left name id := by rw [h.document?_eq]; rfl
  same name id _ := h.document?_eq name id
  sent name id d found := by
    rw [h.document?_eq] at found
    exact .inl found

theorem refl (s : Store) : s.Evolves [] s := quiet ⟨rfl, fun _ => rfl, fun _ => rfl⟩

theorem trans (h : s.Evolves log s') (h' : s'.Evolves more s'') : s.Evolves (log ++ more) s'' where
  config := h'.config.trans h.config
  counts name := by
    rw [h'.counts, h.counts, List.filter_append, List.length_append, Nat.add_assoc]
  versions name := by
    -- The second log goes on with the number at which the first one stopped.
    have sameNumbers : s'.numbered = s.numbered := by
      funext n
      rw [numbered, h.config, numbered]
    rw [List.filter_append, List.map_append, h.versions, h'.versions, h.counts, sameNumbers,
      List.length_append, ← List.range'_append_1, List.map_append]
  left name id := by rw [h'.left, h.left, versionAfter_append]
  same name id none := by
    rw [List.filter_append, List.append_eq_nil_iff] at none
    rw [h'.same name id none.2, h.same name id none.1]
  sent name id d found := by
    obtain before | new := h'.sent name id d found
    · exact h.sent name id d before
    · exact .inr new

/-- A document that no receipt is about is the same. -/
theorem untouched (h : s.Evolves log s') {name id : String}
    (none : ∀ r ∈ log, r.concerns name id = false) : s'.document? name id = s.document? name id :=
  h.same name id (List.filter_eq_nil_iff.2 fun r hr => by simp [none r hr])

/-- One write or delete: the index counts one more, and only the one document is touched. -/
theorem one {live : Table Document} {kept : Bool}
    (at_id : (live.find? id).map Document.version =
      Receipt.left ⟨name, id, s.numbered (s.writes name), kept⟩)
    (elsewhere : ∀ other, other ≠ id → live.find? other = s.document? name other)
    (source : ∀ d, live.find? id = some d → ∃ bytes, parseSource bytes = .ok d.source) :
    s.Evolves [⟨name, id, s.numbered (s.writes name), kept⟩]
      (s.setIndex name ((s.indexOrEmpty name).written live)) where
  config := rfl
  counts other := by
    rw [writes, indexOrEmpty_setIndex]
    by_cases h : other = name
    · subst h
      simp [Index.written, writes]
    · simp [h, Ne.symm h, writes]
  versions other := by
    by_cases h : other = name
    · subst h
      simp
    · simp [Ne.symm h]
  left other key := by
    rw [document?, indexOrEmpty_setIndex]
    by_cases h : other = name
    · subst h
      by_cases hid : key = id
      · subst hid
        simpa [versionAfter, Receipt.concerns, Index.written] using at_id
      · simp [versionAfter, Receipt.concerns, Index.written, elsewhere key hid, Ne.symm hid]
    · simp [versionAfter, Receipt.concerns, h, Ne.symm h, document?]
  same other key none := by
    rw [document?, indexOrEmpty_setIndex]
    by_cases h : other = name
    · subst h
      have hid : key ≠ id := by
        rintro rfl
        simp [Receipt.concerns] at none
      simpa [Index.written] using elsewhere key hid
    · simp [h, document?]
  sent other key d found := by
    rw [document?, indexOrEmpty_setIndex] at found
    by_cases h : other = name
    · subst h
      rw [if_pos rfl, Index.written] at found
      by_cases hid : key = id
      · subst hid
        exact .inr (source d found)
      · rw [elsewhere key hid] at found
        exact .inl found
    · rw [if_neg h] at found
      exact .inl found

end Evolves

end Store

/-! ## Writing to one index -/

namespace Index

variable (ix : Index) (epoch : UInt64) (id : String)

/-- A write is refused, or puts the document under the next version. -/
theorem put_cases (mode : WriteMode) (required : Option Version) (source : Value) :
    (∃ e, ix.put epoch mode id required source = .error e) ∨
      ∃ result, result ≠ .deleted ∧ ix.put epoch mode id required source =
        .ok (⟨id, ix.nextVersion epoch, result⟩,
          ix.written (ix.live.insert id ⟨ix.nextVersion epoch, source⟩)) := by
  -- The checks of a put in their order: a guarded create, the guard, a create of what is there.
  unfold put
  split
  · exact .inl ⟨_, rfl⟩
  · split
    · exact .inl ⟨_, rfl⟩
    · split
      · exact .inl ⟨_, rfl⟩
      · refine .inr ⟨_, ?_, rfl⟩
        split <;> simp

/-- A delete is refused, or takes the document away. -/
theorem remove_cases (required : Option Version) :
    (∃ e, ix.remove epoch id required = .error e) ∨
      ix.remove epoch id required =
        .ok (⟨id, ix.nextVersion epoch, .deleted⟩, ix.written (ix.live.erase id)) := by
  unfold remove
  split
  · exact .inl ⟨_, rfl⟩
  · exact .inl ⟨_, rfl⟩
  · exact .inr rfl

end Index

end VersionedStore
