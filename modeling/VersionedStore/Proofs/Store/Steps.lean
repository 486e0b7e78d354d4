import VersionedStore.Proofs.Store.Evolution

/-!
# What operations are made of

Every operation is made of a few steps, and the receipts of its steps are those that its answer
holds. So what the steps keep is kept by all operations, and by the runs of a store.

## Main definitions

* `Store.Reaches` — a store and what steps make of it, with their receipts
* `Operation`, `Store.executeAll` — runs of a store, with the receipts of what succeeded

## Main results

* `Store.reaches_executeAll` — a run of a store is made of steps
* `Store.Reaches.evolves` — the receipts of steps tell what they do
-/

namespace VersionedStore

open Json

namespace Store

/-! ## Publishing -/

section Publish

variable (s : Store) (name : String)

theorem indexOrEmpty_publish (other : String) :
    (s.publish name).indexOrEmpty other =
      if other = name then (s.indexOrEmpty name).publish else s.indexOrEmpty other := by
  unfold publish
  split
  · next missing =>
    split
    · next h =>
      rw [h, indexOrEmpty, missing]
      rfl
    · rfl
  · next ix h => rw [indexOrEmpty_setIndex, indexOrEmpty.eq_def s name, h, Option.getD_some]

theorem config_publish : (s.publish name).config = s.config := by
  unfold publish
  split <;> rfl

theorem named_publish : (s.publish name).named = s.named := by
  unfold publish
  split <;> rfl

theorem sameDocuments_publish : s.SameDocuments (s.publish name) where
  config := s.config_publish name
  live other := by
    rw [indexOrEmpty_publish]
    split
    · next h =>
      rw [h, Index.publish]
      split <;> rfl
    · rfl
  writes other := by
    rw [writes, indexOrEmpty_publish]
    split
    · next h =>
      rw [h, Index.publish]
      split <;> rfl
    · rfl

/-- A refresh is a publication that first looks for its index. -/
theorem refresh_eq : (s.refresh name).2 = s.publish name := by
  unfold refresh index publish
  cases s.indices.find? name <;> rfl

end Publish

/-! ## Steps -/

/-- A store becomes another one by the steps that operations are made of; those that put or take
away a document leave receipts. -/
inductive Reaches : Store → List Receipt → Store → Prop
  | refl (s : Store) : Reaches s [] s
  | trans {s s' s'' : Store} {log more : List Receipt} (first : Reaches s log s')
    (rest : Reaches s' more s'') : Reaches s (log ++ more) s''
  /-- An id is made up. -/
  | draw (s : Store) : Reaches s [] s.drawId.2
  | create (s : Store) (name : String) : Reaches s [] (s.createIndex name)
  /-- A document that was sent is put. -/
  | put (s : Store) (name id : String) {bytes : Bytes} {source : Value}
    (parsed : parseSource bytes = .ok source) :
    Reaches s [⟨name, id, s.numbered (s.writes name), true⟩]
      (s.setIndex name ((s.indexOrEmpty name).written
        ((s.indexOrEmpty name).live.insert id ⟨s.numbered (s.writes name), source⟩)))
  | remove (s : Store) (name id : String) :
    Reaches s [⟨name, id, s.numbered (s.writes name), false⟩]
      (s.setIndex name ((s.indexOrEmpty name).written ((s.indexOrEmpty name).live.erase id)))
  | publish (s : Store) (name : String) : Reaches s [] (s.publish name)

/-- The receipts of steps tell what they do. -/
theorem Reaches.evolves {s s' : Store} {log : List Receipt} (h : s.Reaches log s') :
    s.Evolves log s' := by
  induction h with
  | refl s => exact .refl s
  | trans _ _ first rest => exact first.trans rest
  | draw s => exact .quiet ⟨rfl, fun _ => rfl, fun _ => rfl⟩
  | create s name => exact .quiet (s.alike_setIndex name).sameDocuments
  | @put s name id bytes source parsed =>
    refine .one ?_ ?_ ?_
    · simp [Receipt.left]
    · intro other hne
      simp [hne, document?]
    · intro d found
      rw [Table.find?_insert, if_pos rfl] at found
      exact ⟨bytes, by rw [← Option.some.inj found, parsed]⟩
  | remove s name id =>
    refine .one ?_ ?_ ?_
    · simp [Receipt.left]
    · intro other hne
      simp [hne, document?]
    · intro d found
      simp at found
  | publish s name => exact .quiet (s.sameDocuments_publish name)

theorem Reaches.config {s s' : Store} {log : List Receipt} (h : s.Reaches log s') :
    s'.config = s.config := h.evolves.config

/-! ## Operations on one index -/

variable (s : Store) (name id : String)

/-- A write is refused, or the document is there under the next version. -/
theorem writeAt_cases (mode : WriteMode) (required : Option Version) (source : Value) :
    (∃ e, s.writeAt name mode id required source = (.error e, s.createIndex name)) ∨
      ∃ result, result ≠ .deleted ∧ s.writeAt name mode id required source =
        (.ok ⟨id, s.numbered (s.writes name), result⟩,
          s.setIndex name ((s.indexOrEmpty name).written
            ((s.indexOrEmpty name).live.insert id ⟨s.numbered (s.writes name), source⟩))) := by
  obtain ⟨e, put⟩ | ⟨result, kept, put⟩ :=
    (s.indexOrEmpty name).put_cases s.config.epoch id mode required source
  · exact .inl ⟨e, by simp only [writeAt, change, put, createIndex]⟩
  · refine .inr ⟨result, kept, ?_⟩
    simp only [writeAt, change, put]
    rfl

/-- A delete is refused, or the document is gone. -/
theorem deleteAt_cases (required : Option Version) :
    (∃ e, s.deleteAt name id required = (.error e, s.createIndex name)) ∨
      s.deleteAt name id required =
        (.ok ⟨id, s.numbered (s.writes name), .deleted⟩,
          s.setIndex name ((s.indexOrEmpty name).written
            ((s.indexOrEmpty name).live.erase id))) := by
  obtain ⟨e, removed⟩ | removed := (s.indexOrEmpty name).remove_cases s.config.epoch id required
  · exact .inl ⟨e, by simp only [deleteAt, change, removed, createIndex]⟩
  · right
    simp only [deleteAt, change, removed]
    rfl

theorem reaches_writeAt (mode : WriteMode) (required : Option Version) {bytes : Bytes}
    {source : Value} (parsed : parseSource bytes = .ok source) :
    s.Reaches (Receipt.ofAnswer name (s.writeAt name mode id required source).1)
      (s.writeAt name mode id required source).2 := by
  obtain ⟨e, h⟩ | ⟨result, kept, h⟩ := s.writeAt_cases name id mode required source
  · rw [h]
    exact .create s name
  · rw [h, Receipt.ofAnswer, bne_iff_ne.2 kept]
    exact .put s name id parsed

theorem reaches_deleteAt (required : Option Version) :
    s.Reaches (Receipt.ofAnswer name (s.deleteAt name id required).1)
      (s.deleteAt name id required).2 := by
  obtain ⟨e, h⟩ | h := s.deleteAt_cases name id required
  · rw [h]
    exact .create s name
  · rw [h]
    exact .remove s name id

theorem reaches_settle (refresh : RefreshPolicy) : s.Reaches [] (s.settle name refresh) := by
  unfold settle
  split
  · exact .publish s name
  · exact .refl s

theorem sameDocuments_settle (refresh : RefreshPolicy) :
    s.SameDocuments (s.settle name refresh) := by
  unfold settle
  split
  · exact s.sameDocuments_publish name
  · exact ⟨rfl, fun _ => rfl, fun _ => rfl⟩

theorem reaches_address (kind : Action.Kind) (id : Option String) :
    s.Reaches [] (s.address kind id).2 := by
  unfold address
  split
  · exact .refl s
  · exact .refl s
  · exact .draw s
  · exact .refl s

theorem reaches_write (id : Option String) (kind : Action.Kind) (required : Option Version)
    (source : Bytes) (refresh : RefreshPolicy) :
    s.Reaches (Receipt.ofAnswer name (s.write name id kind required source refresh).1)
      (s.write name id kind required source refresh).2 := by
  -- An id may be made up before the write; no receipt tells of that.
  have addressed := s.reaches_address kind id
  unfold write
  split
  · next h => rwa [h] at addressed
  · next mode id s₁ h =>
    rw [h] at addressed
    split
    · exact addressed
    · next v parsed =>
      have written := addressed.trans (s₁.reaches_writeAt name id mode required parsed)
      split
      · next hw => rwa [hw] at written
      · next hw =>
        rw [hw] at written
        simpa using written.trans (reaches_settle _ name refresh)

theorem reaches_delete (required : Option Version) (refresh : RefreshPolicy) :
    s.Reaches (Receipt.ofAnswer name (s.delete name id required refresh).1)
      (s.delete name id required refresh).2 := by
  have deleted := s.reaches_deleteAt name id required
  unfold delete
  split
  · exact .refl s
  · split
    -- A refused delete is not published, so both cases are the delete and what may follow it.
    · next h => rwa [h] at deleted
    · next h =>
      rw [h] at deleted
      simpa using deleted.trans (reaches_settle _ name refresh)

theorem reaches_refresh : s.Reaches [] (s.refresh name).2 := by
  rw [refresh_eq]
  exact .publish s name

/-! ## Bulk requests -/

theorem applyAll_append (s : Store) (defaultIndex : Option String) (as bs : List Action) :
    s.applyAll defaultIndex (as ++ bs) =
      ((s.applyAll defaultIndex as).1 ++
          ((s.applyAll defaultIndex as).2.applyAll defaultIndex bs).1,
        ((s.applyAll defaultIndex as).2.applyAll defaultIndex bs).2) := by
  induction as generalizing s with
  | nil => rfl
  | cons a as ih => simp [applyAll, ih]

theorem length_applyAll (s : Store) (defaultIndex : Option String) (as : List Action) :
    (s.applyAll defaultIndex as).1.length = as.length := by
  induction as generalizing s with
  | nil => rfl
  | cons a as ih => simp [applyAll, ih]

theorem bulk_of_few (s : Store) (defaultIndex : Option String) {as : List Action}
    (few : as.length ≤ s.config.maxActions) (refresh : RefreshPolicy) :
    s.bulk defaultIndex as refresh =
      (.ok (.ofItems 0 (s.applyAll defaultIndex as).1),
        (touched (s.applyAll defaultIndex as).1).foldl (fun s name => s.settle name refresh)
          (s.applyAll defaultIndex as).2) := by
  rw [bulk, if_neg (by omega)]

@[simp] theorem isSuccess_success (w : Written) : (success name w).isSuccess = true := by
  unfold success Wire.Outcome.isSuccess
  cases w.result <;> rfl

theorem isSuccess_failure (name id : Option String) (e : StoreError) :
    (failure name id e).isSuccess = false := by
  unfold failure Wire.Outcome.isSuccess
  split <;> rfl

theorem ofItem?_failure (kind : Action.Kind) (name id : Option String) (e : StoreError) :
    Receipt.ofItem? ⟨kind, failure name id e⟩ = none := by
  rw [Receipt.ofItem?, isSuccess_failure, if_neg Bool.false_ne_true]

theorem ofItem?_success (kind : Action.Kind) (w : Written) :
    Receipt.ofItem? ⟨kind, success name w⟩ = some ⟨name, w.id, w.version, kind != .delete⟩ := by
  rw [Receipt.ofItem?, isSuccess_success, if_pos rfl]
  rfl

theorem reaches_applyAt (a : Action) :
    s.Reaches (Receipt.ofAnswer name (s.applyAt name id a).1) (s.applyAt name id a).2 := by
  unfold applyAt
  split
  · exact s.reaches_deleteAt name id a.version
  · split
    · exact .create s name
    · split
      · exact .create s name
      · next parsed => exact s.reaches_writeAt name id _ a.version parsed

-- The receipt of an item goes by the kind of its action, that of an answer by its result; this
-- lemma shows that they agree.
/-- Only a delete leaves no document. -/
theorem kept_of_applyAt {s s' : Store} {a : Action} {w : Written}
    (h : s.applyAt name id a = (.ok w, s')) :
    (w.result != .deleted) = (a.kind != .delete) := by
  unfold applyAt at h
  cases hk : a.kind with
  | delete =>
    simp only [hk, Action.Kind.mode?] at h
    obtain ⟨e, hr⟩ | hr := s.deleteAt_cases name id a.version
    · simp [hr] at h
    · rw [hr] at h
      rw [← Except.ok.inj (congrArg Prod.fst h)]
      rfl
  | create | index =>
    simp only [hk, Action.Kind.mode?] at h
    split at h
    · simp at h
    · split at h
      · simp at h
      · obtain ⟨e, hr⟩ | ⟨result, kept, hr⟩ := s.writeAt_cases name id _ a.version _
        · rw [hr] at h
          cases congrArg Prod.fst h
        · rw [hr] at h
          rw [← Except.ok.inj (congrArg Prod.fst h), bne_iff_ne.2 kept]
          rfl

theorem reaches_apply (defaultIndex : Option String) (a : Action) :
    s.Reaches (Receipt.ofItem? (s.apply defaultIndex a).1).toList (s.apply defaultIndex a).2 := by
  unfold apply
  split
  · rw [ofItem?_failure]
    exact .refl s
  · next name _ =>
    have drawn : s.Reaches [] (s.actionId a).2 := by
      unfold actionId
      split
      · exact .refl s
      · split
        · exact .draw s
        · exact .refl s
    split
    · next h =>
      rw [ofItem?_failure]
      rwa [h] at drawn
    · next id s₁ h =>
      rw [h] at drawn
      -- Drawing an id leaves no receipt, so what is left is the operation on the one index.
      have applied := drawn.trans (s₁.reaches_applyAt name id a)
      split
      · next w s₂ hw =>
        rw [hw, Receipt.ofAnswer, kept_of_applyAt name id hw] at applied
        rwa [ofItem?_success]
      · next hw =>
        rw [hw] at applied
        rwa [ofItem?_failure]

theorem reaches_applyAll (defaultIndex : Option String) (as : List Action) :
    s.Reaches ((s.applyAll defaultIndex as).1.filterMap Receipt.ofItem?)
      (s.applyAll defaultIndex as).2 := by
  induction as generalizing s with
  | nil => exact .refl s
  | cons a as ih =>
    have both := (s.reaches_apply defaultIndex a).trans (ih (s.apply defaultIndex a).2)
    rw [applyAll, List.filterMap_cons]
    cases h : Receipt.ofItem? (s.apply defaultIndex a).1 with
    | none => simpa [h] using both
    | some r => simpa [h] using both

theorem reaches_settleAll (refresh : RefreshPolicy) (names : List String) :
    s.Reaches [] (names.foldl (fun s name => s.settle name refresh) s) := by
  induction names generalizing s with
  | nil => exact .refl s
  | cons name names ih => exact (s.reaches_settle name refresh).trans (ih _)

theorem reaches_bulk (defaultIndex : Option String) (as : List Action) (refresh : RefreshPolicy) :
    s.Reaches (Receipt.ofBulk (s.bulk defaultIndex as refresh).1)
      (s.bulk defaultIndex as refresh).2 := by
  unfold bulk
  split
  · exact .refl s
  · simpa [Receipt.ofBulk, Wire.BulkReply.ofItems] using
      (s.reaches_applyAll defaultIndex as).trans (reaches_settleAll _ refresh _)

end Store

/-! ## Runs -/

/-- An operation that may change a store. -/
inductive Operation
  /-- Makes an index. -/
  | createIndex (name : String)
  /-- Writes a document. -/
  | write (name : String) (id : Option String) (kind : Action.Kind) (required : Option Version)
    (source : Bytes) (refresh : RefreshPolicy)
  /-- Deletes a document. -/
  | delete (name id : String) (required : Option Version) (refresh : RefreshPolicy)
  /-- A bulk request. -/
  | bulk (defaultIndex : Option String) (actions : List Action) (refresh : RefreshPolicy)
  /-- Publishes an index. -/
  | refresh (name : String)
deriving DecidableEq

namespace Store

/-- Carries out an operation: the receipts in its answer, and the store after it. -/
def execute (s : Store) : Operation → List Receipt × Store
  | .createIndex name => ([], s.createIndex name)
  | .write name id kind required source refresh =>
    let r := s.write name id kind required source refresh
    (Receipt.ofAnswer name r.1, r.2)
  | .delete name id required refresh =>
    let r := s.delete name id required refresh
    (Receipt.ofAnswer name r.1, r.2)
  | .bulk defaultIndex actions refresh =>
    let r := s.bulk defaultIndex actions refresh
    (Receipt.ofBulk r.1, r.2)
  | .refresh name => ([], (s.refresh name).2)

/-- Carries out operations in order. -/
def executeAll (s : Store) : List Operation → List Receipt × Store
  | [] => ([], s)
  | o :: os =>
    let first := s.execute o
    let others := first.2.executeAll os
    (first.1 ++ others.1, others.2)

theorem executeAll_append (s : Store) (os ps : List Operation) :
    s.executeAll (os ++ ps) = ((s.executeAll os).1 ++ ((s.executeAll os).2.executeAll ps).1,
      ((s.executeAll os).2.executeAll ps).2) := by
  induction os generalizing s with
  | nil => rfl
  | cons o os ih => simp [executeAll, ih]

theorem reaches_execute (s : Store) (o : Operation) :
    s.Reaches (s.execute o).1 (s.execute o).2 := by
  cases o with
  | createIndex name => exact .create s name
  | write name id kind required source refresh =>
    exact s.reaches_write name id kind required source refresh
  | delete name id required refresh => exact s.reaches_delete name id required refresh
  | bulk defaultIndex actions refresh => exact s.reaches_bulk defaultIndex actions refresh
  | refresh name => exact s.reaches_refresh name

/-- A run of a store is made of steps. -/
theorem reaches_executeAll (s : Store) (os : List Operation) :
    s.Reaches (s.executeAll os).1 (s.executeAll os).2 := by
  induction os generalizing s with
  | nil => exact .refl s
  | cons o os ih => exact (s.reaches_execute o).trans (ih _)

end Store

end VersionedStore
