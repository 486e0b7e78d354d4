import VersionedStore.Proofs.Store.Guard

/-!
# Numbers without gaps

The writes and deletes of an index that succeed are numbered from zero on, one after the other,
whether they come alone or as items of bulk requests; what is refused draws no number. A live
document has the number of the latest put of its id, so no two of an index have the same one. The
numbers are words of 64 bits: after 2⁶⁴ successful operations on an index they would begin anew.

## Main definitions

* `Store.Numbered` — how the operations of an index are numbered in a run

## Main results

* `Store.isSome_receipt` — every item that tells of a success has a receipt, and no other has
* `Store.Evolves.version_of_getElem?` — the numbers of the receipts of an index count on
* `Store.Evolves.eq_of_sequence` — no two live documents of an index have the same number
* `Store.run_numbered` — the operations of every run are numbered so
-/

namespace VersionedStore

open Json

/-! ## Receipts -/

/-- The receipt that a latest put tells of. -/
theorem LatestPut.exists_receipt {log : List Receipt} {name id : String} {v : Version}
    (h : LatestPut log name id v) :
    ∃ r ∈ log.filter (·.index == name), r.id = id ∧ r.version = v := by
  obtain ⟨r, latest, -, version⟩ := h
  obtain ⟨hr, concerns⟩ := List.mem_filter.1 (List.mem_of_getLast? latest)
  rw [Receipt.concerns, Bool.and_eq_true, beq_iff_eq] at concerns
  exact ⟨r, List.mem_filter.2 ⟨hr, beq_iff_eq.2 concerns.1⟩, beq_iff_eq.1 concerns.2, version⟩

namespace Store

/-- The item of an action has a receipt just if it tells of a success. -/
theorem isSome_receipt (s : Store) (defaultIndex : Option String) (a : Action) :
    (Receipt.ofItem? (s.apply defaultIndex a).1).isSome =
      (s.apply defaultIndex a).1.outcome.isSuccess := by
  unfold apply
  split
  · simp [ofItem?_failure, isSuccess_failure]
  · split
    · simp [ofItem?_failure, isSuccess_failure]
    · split
      · simp [ofItem?_success]
      · simp [ofItem?_failure, isSuccess_failure]

theorem isSome_receipt_of_mem {s : Store} {defaultIndex : Option String} {as : List Action}
    {i : Wire.Item} (h : i ∈ (s.applyAll defaultIndex as).1) :
    (Receipt.ofItem? i).isSome = i.outcome.isSuccess := by
  induction as generalizing s with
  | nil => simp [applyAll] at h
  | cons a as ih =>
    obtain rfl | h := List.mem_cons.1 h
    · exact s.isSome_receipt defaultIndex a
    · exact ih h

/-! ## Numbers of receipts -/

namespace Evolves

variable {s s' : Store} {log : List Receipt} {name : String}

/-- The versions of the receipts of an index count on from where the index stood. -/
theorem version_of_getElem? (h : s.Evolves log s') {k : Nat} {r : Receipt}
    (hr : (log.filter (·.index == name))[k]? = some r) :
    r.version = s.numbered (s.writes name + k) := by
  have version : ((log.filter (·.index == name)).map Receipt.version)[k]? = some r.version := by
    rw [List.getElem?_map, hr, Option.map_some]
  have within : k < (log.filter (·.index == name)).length := (List.getElem?_eq_some_iff.1 hr).1
  rw [h.versions, List.getElem?_map, List.getElem?_range' within] at version
  simpa using version.symm

end Evolves

/-- From an empty store on, no two live documents of an index have the same number, as long as the
numbers fit. -/
theorem Evolves.eq_of_sequence {config : StoreConfig} {ids : NameSupply} {log : List Receipt}
    {s : Store}
    (h : (empty config ids).Evolves log s) {name id id' : String} (few : s.writes name ≤ UInt64.size)
    {d d' : Document} (found : s.document? name id = some d)
    (found' : s.document? name id' = some d')
    (same : d.version.sequence = d'.version.sequence) : id = id' := by
  -- Both documents have the versions of receipts of the index, which all differ.
  obtain ⟨r, hr, rfl, version⟩ :=
    ((h.version_iff name id d.version).1 (by rw [found]; rfl)).exists_receipt
  obtain ⟨r', hr', rfl, version'⟩ :=
    ((h.version_iff name id' d'.version).1 (by rw [found']; rfl)).exists_receipt
  obtain ⟨n, -, -, number⟩ := h.number_of_mem (List.mem_filter.1 hr).1
  obtain ⟨n', -, -, number'⟩ := h.number_of_mem (List.mem_filter.1 hr').1
  have versions : r.version = r'.version := by
    rw [← version, ← version', number, number'] at same
    rw [number, number']
    exact congrArg (Version.mk config.epoch) same
  rw [List.inj_on_of_nodup_map (h.nodup_versions name few) hr hr' versions]

/-! ## Runs -/

/-- How the operations of an index are numbered in a run from an empty store on, by the receipts of
the run and the store that it left. The successful operations on the index are its receipts in their
order, those of single ones and of items of bulk requests together. -/
structure Numbered (config : StoreConfig) (log : List Receipt) (s : Store) (name : String) :
    Prop where
  /-- They have the numbers from zero on, and the epoch of the store. -/
  consecutive : ∀ k r, (log.filter (·.index == name))[k]? = some r →
    r.version = ⟨config.epoch, UInt64.ofNat k⟩ ∧
      (k < UInt64.size → r.version.sequence.toNat = k)
  /-- The index has counted these and no others. -/
  counted : s.writes name = (log.filter (·.index == name)).length
  /-- Whatever comes next counts on by its own successes. -/
  next : ∀ o, (s.execute o).2.writes name =
    s.writes name + ((s.execute o).1.filter (·.index == name)).length
  /-- Every item of a bulk request that tells of a success has a receipt, and no other has. -/
  items : ∀ defaultIndex actions refresh reply,
    (s.bulk defaultIndex actions refresh).1 = .ok reply →
      ∀ i ∈ reply.items, (Receipt.ofItem? i).isSome = i.outcome.isSuccess
  /-- An action that is refused counts nothing. -/
  refused : ∀ defaultIndex a, (s.apply defaultIndex a).1.outcome.isSuccess = false →
    (s.apply defaultIndex a).2.writes name = s.writes name
  /-- A live document has the version of the latest put of its id. -/
  latest : ∀ id d, s.document? name id = some d → LatestPut log name id d.version
  /-- As long as the numbers fit into a word, no two live documents have the same one. -/
  distinct : (log.filter (·.index == name)).length ≤ UInt64.size → ∀ id id' d d',
    s.document? name id = some d → s.document? name id' = some d' →
      d.version.sequence = d'.version.sequence → id = id'

/-- In every run of a store, for every index: the successful operations on it are numbered from zero
on, one after the other, and what is refused draws no number. A live document has the number of the
latest put of its id, and no two live documents of the index have the same one. -/
theorem run_numbered (config : StoreConfig) {ids : NameSupply} (operations : List Operation)
    (name : String) :
    Numbered config ((empty config ids).executeAll operations).1
      ((empty config ids).executeAll operations).2 name := by
  generalize hlog : ((empty config ids).executeAll operations).1 = log
  generalize hs : ((empty config ids).executeAll operations).2 = s
  have run : (empty config ids).Evolves log s := by
    rw [← hlog, ← hs]
    exact (reaches_executeAll _ operations).evolves
  have counts : s.writes name = (log.filter (·.index == name)).length :=
    (run.counts name).trans (Nat.zero_add _)
  refine ⟨fun k r hr => ?consecutive, counts, fun o => (s.reaches_execute o).evolves.counts name,
    fun defaultIndex actions refresh reply answer i hi => ?items, fun defaultIndex a refused =>
    ?refused, fun id d found => ?latest, fun few id id' d d' found found' same => ?distinct⟩
  case consecutive =>
    have version : r.version = ⟨config.epoch, UInt64.ofNat (0 + k)⟩ := run.version_of_getElem? hr
    rw [Nat.zero_add] at version
    rw [version]
    exact ⟨rfl, UInt64.toNat_ofNat_of_lt'⟩
  case items =>
    unfold bulk at answer
    split at answer
    · simp at answer
    · rw [← Except.ok.inj answer] at hi
      exact isSome_receipt_of_mem hi
  case refused =>
    -- An item that tells of no success has no receipt, so its index counts nothing.
    have applied := (s.reaches_apply defaultIndex a).evolves.counts name
    rw [← s.isSome_receipt, Option.isSome_eq_false_iff, Option.isNone_iff_eq_none] at refused
    rw [applied, refused]
    rfl
  case latest => exact (run.version_iff name id d.version).1 (by rw [found]; rfl)
  case distinct => exact run.eq_of_sequence (by rw [counts]; exact few) found found' same

end Store

end VersionedStore
