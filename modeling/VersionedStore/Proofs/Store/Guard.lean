import VersionedStore.Proofs.Store.Steps
import VersionedStore.Proofs.Store.Versions

/-!
# Guards

A guarded request names the version of the document that it expects. In every run of a store
the guard holds exactly if the latest successful operation on the document was a put that was
acknowledged with this version; otherwise the request is refused and nothing is changed. As no
two operations on an index make the same version, a version never comes back.

## Main definitions

* `LatestPut` — the latest receipt of a document is one of a put
* `Store.Decided` — a request that a condition decides

## Main results

* `Store.guard_iff_latestPut` — what guards decide, in every run
-/

namespace VersionedStore

open Json

/-! ## What the receipts of a run tell -/

/-- Whether the latest successful operation on a document was a put that made the version. -/
def LatestPut (log : List Receipt) (name id : String) (v : Version) : Prop :=
  ∃ r, (log.filter (·.concerns name id)).getLast? = some r ∧ r.kept = true ∧ r.version = v

theorem versionAfter_none_iff {log : List Receipt} {name id : String} {v : Version} :
    versionAfter log name id none = some v ↔ LatestPut log name id v := by
  unfold versionAfter LatestPut
  cases (log.filter (·.concerns name id)).getLast? with
  | none => simp
  | some r => simp [Receipt.left]

namespace Store

/-- From an empty store on, the live documents have the versions of the latest puts. -/
theorem Evolves.version_iff {config : StoreConfig} {ids : NameSupply} {log : List Receipt}
    {s : Store}
    (h : (empty config ids).Evolves log s) (name id : String) (v : Version) :
    (s.document? name id).map Document.version = some v ↔ LatestPut log name id v := by
  rw [h.left, ← versionAfter_none_iff]
  rfl

end Store

/-! ## Guards of one index -/

namespace Index

variable {ix : Index} {id : String} {v : Version}

theorem current_of_version (h : (ix.live.find? id).map Document.version = some v) :
    ∃ d, ix.current id (some v) = .ok (some d) := by
  unfold current
  cases found : ix.live.find? id with
  | none => simp [found] at h
  | some d =>
    rw [found, Option.map_some, Option.some.injEq] at h
    exact ⟨d, if_pos h⟩

theorem current_of_otherVersion (h : (ix.live.find? id).map Document.version ≠ some v) :
    ∃ reason, ix.current id (some v) = .error (.conflict id reason) := by
  unfold current
  cases found : ix.live.find? id with
  | none => exact ⟨_, rfl⟩
  | some d =>
    rw [found, Option.map_some, ne_eq, Option.some.injEq] at h
    exact ⟨_, if_neg h⟩

end Index

namespace Store

/-! ## Guards of single requests -/

/-- The condition decides a request: if it holds, the request is accepted, and otherwise refused
with a version conflict, and nothing is changed. -/
structure Decided (accepted : Prop) (s : Store) (id : String)
    (r : Except StoreError Written × Store) : Prop where
  accepts : accepted → ∃ w, r.1 = .ok w
  refuses : ¬ accepted → ∃ reason, r.1 = .error (.conflict id reason) ∧ s.Alike r.2

variable (s : Store) (name id : String) (v : Version)

theorem decided_writeAt (source : Value) :
    Decided ((s.document? name id).map Document.version = some v) s id
      (s.writeAt name .index id (some v) source) where
  accepts h := by
    obtain ⟨d, hd⟩ := Index.current_of_version h
    simp [writeAt, change, Index.put, hd]
  refuses h := by
    obtain ⟨reason, hr⟩ := Index.current_of_otherVersion h
    simp [writeAt, change, Index.put, hr, s.alike_setIndex name]

theorem decided_deleteAt :
    Decided ((s.document? name id).map Document.version = some v) s id
      (s.deleteAt name id (some v)) where
  accepts h := by
    obtain ⟨d, hd⟩ := Index.current_of_version h
    simp [deleteAt, change, Index.remove, hd]
  refuses h := by
    obtain ⟨reason, hr⟩ := Index.current_of_otherVersion h
    simp [deleteAt, change, Index.remove, hr, s.alike_setIndex name]

/-- A condition also decides what gives the same answer, and leaves the same where it refuses. -/
theorem Decided.congr {accepted : Prop} {s : Store} {id : String}
    {r r' : Except StoreError Written × Store} (h : Decided accepted s id r) (answer : r'.1 = r.1)
    (refused : ∀ e, r.1 = .error e → r'.2 = r.2) : Decided accepted s id r' where
  accepts holds := by
    rw [answer]
    exact h.accepts holds
  refuses fails := by
    obtain ⟨reason, hr, alike⟩ := h.refuses fails
    rw [answer, refused _ hr]
    exact ⟨reason, hr, alike⟩

theorem decided_write {source : Bytes} {d : Value} (h : parseSource source = .ok d)
    (refresh : RefreshPolicy) :
    Decided ((s.document? name id).map Document.version = some v) s id
      (s.write name (some id) .index (some v) source refresh) := by
  simp only [write, address, Action.Kind.mode?, h]
  refine (s.decided_writeAt name id v d).congr ?_ fun e he => ?_
  · split <;> simp_all
  · split <;> simp_all

theorem decided_delete (h : s.hasIndex name = true) (refresh : RefreshPolicy) :
    Decided ((s.document? name id).map Document.version = some v) s id
      (s.delete name id (some v) refresh) := by
  obtain ⟨ix, hix⟩ := Option.isSome_iff_exists.1 h
  simp only [delete, index, hix]
  refine (s.decided_deleteAt name id v).congr ?_ fun e he => ?_
  · split <;> simp_all
  · split <;> simp_all

/-- A guarded write is refused, or it has put the document that was sent in place of the version
that it expects. -/
theorem write_guarded_cases (source : Bytes) (refresh : RefreshPolicy) :
    (∃ e, (s.write name (some id) .index (some v) source refresh).1 = .error e) ∨
      ∃ d result, parseSource source = .ok d ∧ result ≠ .deleted ∧
        (s.document? name id).map Document.version = some v ∧
        (s.write name (some id) .index (some v) source refresh).1 =
          .ok ⟨id, s.numbered (s.writes name), result⟩ ∧
        (s.write name (some id) .index (some v) source refresh).2.document? name id =
          some ⟨s.numbered (s.writes name), d⟩ := by
  cases h : parseSource source with
  | error e =>
    refine .inl ⟨e, ?_⟩
    simp only [write, address, Action.Kind.mode?, h]
  | ok d =>
    -- Whether the write goes through depends on the guard alone, once there is a document to write.
    have decided := s.decided_write name id v h refresh
    by_cases holds : (s.document? name id).map Document.version = some v
    · obtain ⟨before, hbefore⟩ := Index.current_of_version holds
      have put : s.writeAt name .index id (some v) d =
          (.ok ⟨id, s.numbered (s.writes name), .updated⟩,
            s.setIndex name ((s.indexOrEmpty name).written
              ((s.indexOrEmpty name).live.insert id ⟨s.numbered (s.writes name), d⟩))) := by
        rw [writeAt, Index.put, if_neg (by simp), hbefore]
        rfl
      refine .inr ⟨d, .updated, rfl, by simp, holds, ?_, ?_⟩
      · simp only [write, address, Action.Kind.mode?, h, put]
      · simp only [write, address, Action.Kind.mode?, h, put]
        -- What is published afterwards does not change which document is live.
        rw [(sameDocuments_settle _ name refresh).document?_eq, document?, indexOrEmpty_setIndex,
          if_pos rfl]
        simp [Index.written]
    · obtain ⟨reason, refused, -⟩ := decided.refuses holds
      exact .inl ⟨_, refused⟩

/-- Nothing is deleted from an index that is missing. -/
theorem delete_of_missing (h : s.hasIndex name = false) (required : Option Version)
    (refresh : RefreshPolicy) :
    s.document? name id = none ∧
      s.delete name id required refresh = (.error (.indexMissing name), s) := by
  have missing : s.indices.find? name = none := by
    rwa [hasIndex, Table.contains, Option.isSome_eq_false_iff, Option.isNone_iff_eq_none] at h
  constructor
  · rw [document?, indexOrEmpty, missing]
    rfl
  · rw [delete, index, missing]

end Store

/-! ## Guards of actions -/

/-- An action that puts or deletes a document and expects a version of it. -/
structure Action.Guarded (a : Action) (defaultIndex : Option String) (name id : String)
    (v : Version) : Prop where
  index : a.index.or defaultIndex = some name
  id : a.id = some id
  version : a.version = some v
  kind : a.kind = .delete ∨
    a.kind = .index ∧ ∃ source d, a.source = some source ∧ Store.parseSource source = .ok d

namespace Store

theorem decided_applyAt (s : Store) {name id : String} {v : Version} {a : Action}
    {defaultIndex : Option String} (h : a.Guarded defaultIndex name id v) :
    Decided ((s.document? name id).map Document.version = some v) s id (s.applyAt name id a) := by
  obtain kind | ⟨kind, source, d, hs, hd⟩ := h.kind
  · simp only [applyAt, kind, Action.Kind.mode?, h.version]
    exact s.decided_deleteAt name id v
  · simp only [applyAt, kind, Action.Kind.mode?, hs, hd, h.version]
    exact s.decided_writeAt name id v d

/-! ### Stores that are alike -/

/-- Results with the same answer and stores that are alike. -/
def SameResult {α : Type} (r r' : α × Store) : Prop := r'.1 = r.1 ∧ r.2.Alike r'.2

namespace Alike

variable {s s' : Store} (h : s.Alike s') (name id : String)

include h

theorem setIndex (ix : Index) : (s.setIndex name ix).Alike (s'.setIndex name ix) where
  config := h.config
  indices other := by rw [indexOrEmpty_setIndex, indexOrEmpty_setIndex, h.indices]
  named := h.named

theorem change (ix : Index) (changed : Except StoreError (Written × Index)) :
    SameResult (s.change name ix changed) (s'.change name ix changed) := by
  unfold Store.change
  cases changed with
  | error e => exact ⟨rfl, h.setIndex name ix⟩
  | ok r => exact ⟨rfl, h.setIndex name r.2⟩

theorem applyAt (a : Action) : SameResult (s.applyAt name id a) (s'.applyAt name id a) := by
  -- A request that is refused for its document still makes the index.
  have created : (s.createIndex name).Alike (s'.createIndex name) := by
    rw [createIndex, createIndex, h.indices]
    exact h.setIndex name _
  unfold Store.applyAt
  split
  · rw [deleteAt, deleteAt, h.indices, h.config]
    exact h.change name _ _
  · split
    · exact ⟨rfl, created⟩
    · split
      · exact ⟨rfl, created⟩
      · rw [writeAt, writeAt, h.indices, h.config]
        exact h.change name _ _

theorem actionId (a : Action) : SameResult (s.actionId a) (s'.actionId a) := by
  unfold Store.actionId drawId
  rw [h.named]
  split
  · exact ⟨rfl, h⟩
  · split
    · exact ⟨rfl, h.config, h.indices, rfl⟩
    · exact ⟨rfl, h⟩

theorem apply (defaultIndex : Option String) (a : Action) :
    SameResult (s.apply defaultIndex a) (s'.apply defaultIndex a) := by
  unfold Store.apply
  split
  · exact ⟨rfl, h⟩
  · next name _ =>
    obtain ⟨sameId, drawn⟩ := h.actionId a
    cases hs : s.actionId a with
    | mk id s₁ =>
    cases hs' : s'.actionId a with
    | mk id' s₁' =>
      rw [hs, hs'] at sameId drawn
      simp only at sameId drawn
      subst sameId
      cases id' with
      | none => exact ⟨rfl, drawn⟩
      | some id =>
        obtain ⟨sameAnswer, applied⟩ := drawn.applyAt name id a
        cases hr : s₁.applyAt name id a with
        | mk answer s₂ =>
        cases hr' : s₁'.applyAt name id a with
        | mk answer' s₂' =>
          rw [hr, hr'] at sameAnswer applied
          simp only at sameAnswer applied
          subst sameAnswer
          simp only [hr, hr']
          cases answer' with
          | error e => exact ⟨rfl, applied⟩
          | ok w => exact ⟨rfl, applied⟩

theorem applyAll (defaultIndex : Option String) (as : List Action) :
    SameResult (s.applyAll defaultIndex as) (s'.applyAll defaultIndex as) := by
  induction as generalizing s s' with
  | nil => exact ⟨rfl, h⟩
  | cons a as ih =>
    obtain ⟨sameItem, applied⟩ := h.apply defaultIndex a
    obtain ⟨sameItems, others⟩ := ih applied
    exact ⟨congrArg₂ List.cons sameItem sameItems, others⟩

theorem settle (refresh : RefreshPolicy) :
    (s.settle name refresh).Alike (s'.settle name refresh) := by
  unfold Store.settle
  split
  · constructor
    · rw [config_publish, config_publish, h.config]
    · intro other
      rw [indexOrEmpty_publish, indexOrEmpty_publish, h.indices, h.indices]
    · rw [named_publish, named_publish, h.named]
  · exact h

theorem settleAll (refresh : RefreshPolicy) (names : List String) :
    (names.foldl (fun s name => s.settle name refresh) s).Alike
      (names.foldl (fun s name => s.settle name refresh) s') := by
  induction names generalizing s s' with
  | nil => exact h
  | cons name names ih => exact ih (h.settle name refresh)

end Alike

/-! ### Actions in their request -/

/-- The outcome of a guarded action: a success if the document has the version, and otherwise a
conflict that changes nothing. -/
theorem apply_guarded (s : Store) {a : Action} {defaultIndex : Option String} {name id : String}
    {v : Version} (h : a.Guarded defaultIndex name id v) :
    ((s.document? name id).map Document.version = some v →
      ∃ w, (s.apply defaultIndex a).1 = ⟨a.kind, success name w⟩) ∧
    ((s.document? name id).map Document.version ≠ some v → ∃ reason,
      (s.apply defaultIndex a).1 =
        ⟨a.kind, failure (some name) (some id) (.conflict id reason)⟩ ∧
      s.Alike (s.apply defaultIndex a).2) := by
  have decided := s.decided_applyAt h
  simp only [apply, h.index, actionId, h.id]
  constructor
  · intro holds
    obtain ⟨w, hw⟩ := decided.accepts holds
    split
    · next hr => exact ⟨_, rfl⟩
    · next hr => simp [hr] at hw
  · intro fails
    obtain ⟨reason, hr, alike⟩ := decided.refuses fails
    split
    · next hw => simp [hw] at hr
    · next hw =>
      rw [hw] at hr alike
      rw [Except.error.inj hr]
      exact ⟨reason, rfl, alike⟩

section Within

variable (s : Store) (defaultIndex : Option String) (before after : List Action) (a : Action)
  (few : before.length + after.length < s.config.maxActions) (refresh : RefreshPolicy)

include few

theorem answer_bulk_around :
    (s.bulk defaultIndex (before ++ a :: after) refresh).1 =
      .ok (.ofItems 0 ((s.applyAll defaultIndex before).1 ++
        ((s.applyAll defaultIndex before).2.apply defaultIndex a).1 ::
        (((s.applyAll defaultIndex before).2.apply defaultIndex a).2.applyAll defaultIndex
          after).1)) := by
  rw [bulk_of_few _ _ (by simp; omega), applyAll_append, applyAll]

/-- An action that is refused and changes nothing might as well be missing from its request. -/
theorem bulk_without
    (alike : (s.applyAll defaultIndex before).2.Alike
      ((s.applyAll defaultIndex before).2.apply defaultIndex a).2)
    (refused : ((s.applyAll defaultIndex before).2.apply defaultIndex a).1.outcome.isSuccess =
      false) :
    (s.bulk defaultIndex (before ++ after) refresh).1 =
      .ok (.ofItems 0 ((s.applyAll defaultIndex before).1 ++
        (((s.applyAll defaultIndex before).2.apply defaultIndex a).2.applyAll defaultIndex
          after).1)) ∧
      (s.bulk defaultIndex (before ++ after) refresh).2.Alike
        (s.bulk defaultIndex (before ++ a :: after) refresh).2 := by
  obtain ⟨sameItems, others⟩ := alike.applyAll defaultIndex after
  have sameTouched : ∀ items item others, item.outcome.isSuccess = false →
      touched (items ++ item :: others) = touched (items ++ others) := by
    intro items item others h
    simp [touched, h]
  rw [bulk_of_few _ _ (by simp; omega), bulk_of_few _ _ (by simp; omega)]
  simp only [applyAll_append, applyAll]
  rw [sameTouched _ _ _ refused, sameItems]
  exact ⟨rfl, others.settleAll refresh _⟩

end Within

/-- In every run of a store: if an index counts fewer than 2⁶⁴ operations, then no two of them
made the same version. And a guarded request is accepted exactly if the latest successful
operation on the document was a put that made the version which the guard names. Otherwise it is
refused with a version conflict (a delete from a missing index: as there is no such index) and
changes nothing. For an action of a bulk request, the operations of the actions before it count
too, and if it is refused, the request does what it does without the action. -/
theorem guard_iff_latestPut (config : StoreConfig) {ids : NameSupply}
    (operations : List Operation) :
    let log := ((empty config ids).executeAll operations).1
    let s := ((empty config ids).executeAll operations).2
    (∀ name, (log.filter (·.index == name)).length < UInt64.size →
      ((log.filter (·.index == name)).map Receipt.version).Nodup) ∧
    ∀ name id v,
      (∀ source d refresh, parseSource source = .ok d →
        Decided (LatestPut log name id v) s id
          (s.write name (some id) .index (some v) source refresh)) ∧
      (∀ refresh, s.hasIndex name = true →
        Decided (LatestPut log name id v) s id (s.delete name id (some v) refresh)) ∧
      (∀ refresh, s.hasIndex name = false →
        ¬ LatestPut log name id v ∧
          s.delete name id (some v) refresh = (.error (.indexMissing name), s)) ∧
      ∀ defaultIndex before (a : Action) after refresh, a.Guarded defaultIndex name id v →
        before.length + after.length < s.config.maxActions →
        ∃ items item others,
          (s.bulk defaultIndex (before ++ a :: after) refresh).1 =
            .ok (.ofItems 0 (items ++ item :: others)) ∧
          items.length = before.length ∧
          (LatestPut (log ++ items.filterMap Receipt.ofItem?) name id v →
            item.outcome.isSuccess = true) ∧
          (¬ LatestPut (log ++ items.filterMap Receipt.ofItem?) name id v →
            item.outcome.status = 409 ∧
            (∃ reason, item = ⟨a.kind, failure (some name) (some id) (.conflict id reason)⟩) ∧
            (s.bulk defaultIndex (before ++ after) refresh).1 = .ok (.ofItems 0 (items ++ others)) ∧
            (s.bulk defaultIndex (before ++ after) refresh).2.Alike
              (s.bulk defaultIndex (before ++ a :: after) refresh).2) := by
  intro log s
  have run : (empty config ids).Evolves log s := (reaches_executeAll _ operations).evolves
  -- The count of an index begins at zero, so it is the number of its receipts.
  have counts : ∀ name, s.writes name = (log.filter (·.index == name)).length := by
    intro name
    rw [run.counts]
    exact Nat.zero_add _
  refine ⟨fun name few => run.nodup_versions name (by rw [counts]; exact few.le),
    fun name id v => ?_⟩
  have latest := run.version_iff name id v
  refine ⟨fun source d refresh h => ?_, fun refresh h => ?_, fun refresh h => ?_,
    fun defaultIndex before a after refresh h few => ?_⟩
  · rw [← latest]
    exact s.decided_write name id v h refresh
  · rw [← latest]
    exact s.decided_delete name id v h refresh
  · obtain ⟨absent, refused⟩ := s.delete_of_missing name id h (some v) refresh
    rw [← latest, absent]
    exact ⟨by simp, refused⟩
  -- The actions before this one in its request belong to the history that its guard sees.
  · have earlier := run.trans (s.reaches_applyAll defaultIndex before).evolves
    have latest := earlier.version_iff name id v
    obtain ⟨accepts, refuses⟩ := (s.applyAll defaultIndex before).2.apply_guarded h
    refine ⟨_, _, _, s.answer_bulk_around defaultIndex before after a few refresh,
      s.length_applyAll defaultIndex before, fun holds => ?_, fun fails => ?_⟩
    · obtain ⟨w, hw⟩ := accepts (latest.2 holds)
      rw [hw]
      exact isSuccess_success name w
    · obtain ⟨reason, hr, alike⟩ := refuses fun h => fails (latest.1 h)
      have refused := isSuccess_failure (some name) (some id) (.conflict id reason)
      refine ⟨by rw [hr]; rfl, ⟨reason, hr⟩, ?_⟩
      exact s.bulk_without defaultIndex before after a few refresh alike (by rw [hr, refused])

/-- A document is put, deleted and put again. -/
def recreation : List Operation :=
  [.write "a" (some "1") .index none (word "\x7b\x7d") .none, .delete "a" "1" none .none,
    .write "a" (some "1") .index none (word "\x7b\x7d") .none]

/-- The guard of the second put holds, that of the first one does not any more. -/
theorem guard_recreation :
    let log := ((empty {}).executeAll recreation).1
    let s := ((empty {}).executeAll recreation).2
    (log.filter (·.index == "a")).length < UInt64.size ∧
      ((log.filter (·.index == "a")).map Receipt.version).Nodup ∧
      parseSource (word "\x7b\x7d") = .ok (.object []) ∧
      (LatestPut log "a" "1" ⟨1, 2⟩ ∧ ∃ w,
        (s.write "a" (some "1") .index (some ⟨1, 2⟩) (word "\x7b\x7d") .none).1 = .ok w) ∧
      (¬ LatestPut log "a" "1" ⟨1, 0⟩ ∧ ∃ reason,
        (s.write "a" (some "1") .index (some ⟨1, 0⟩) (word "\x7b\x7d") .none).1 =
          .error (.conflict "1" reason)) := by
  -- The delete takes a number of its own, so the second put has the third one.
  have receipts : ((empty {}).executeAll recreation).1 =
      [⟨"a", "1", ⟨1, 0⟩, true⟩, ⟨"a", "1", ⟨1, 1⟩, false⟩, ⟨"a", "1", ⟨1, 2⟩, true⟩] := by
    decide +kernel
  have source : parseSource (word "\x7b\x7d") = .ok (.object []) := rfl
  have few : (((empty {}).executeAll recreation).1.filter (·.index == "a")).length <
      UInt64.size := by
    rw [receipts]
    decide
  have second : LatestPut ((empty {}).executeAll recreation).1 "a" "1" ⟨1, 2⟩ := by
    rw [receipts]
    exact ⟨_, rfl, rfl, rfl⟩
  have first : ¬ LatestPut ((empty {}).executeAll recreation).1 "a" "1" ⟨1, 0⟩ := by
    rw [receipts]
    rintro ⟨r, latest, -, version⟩
    obtain rfl : (⟨"a", "1", ⟨1, 2⟩, true⟩ : Receipt) = r := Option.some.inj latest
    simp at version
  obtain ⟨unique, guards⟩ := guard_iff_latestPut {} recreation
  obtain ⟨reason, refused, -⟩ :=
    ((guards "a" "1" ⟨1, 0⟩).1 _ _ .none source).refuses first
  exact ⟨few, unique "a" few, source,
    ⟨second, ((guards "a" "1" ⟨1, 2⟩).1 _ _ .none source).accepts second⟩,
    first, reason, refused⟩

end Store

end VersionedStore
