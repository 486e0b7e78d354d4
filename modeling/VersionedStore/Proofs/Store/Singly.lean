import VersionedStore.Proofs.Server.Refusals
import VersionedStore.Proofs.Store.Publication

/-!
# Bulk requests as single operations

The actions of a bulk request are done one after another. Each is answered as the write or the
delete that it stands for, and leaves the store as this does, but for two things: the index that
an action goes to is made before the action is looked at, so it is there, empty, also after an
action that was refused; and so a delete finds no document where a delete by itself finds no
index.

## Main definitions

* `Store.outcome` — the outcome of an action with the answer of a single operation
* `Store.Done` — the item of an action, and the store after it, by the single operation
* `Store.Singly` — the items of actions that are done one after another

## Main results

* `Store.done_apply`, `Store.singly_applyAll` — what one action does, and what all of them do
* `Store.bulk_singly` — a bulk request is the sequence of its items done singly
* `Store.bulk_delete_nowhere` — but not where a delete goes to an index that is missing
-/

namespace VersionedStore

open Json

namespace Store

/-! ## One action -/

/-- The outcome of an action on a document that is answered as a single operation was. -/
def outcome (name : String) (id : Option String) : Except StoreError Written → Wire.Outcome
  | .ok w => success name w
  | .error e => failure (some name) id e

theorem status_failure (name id : Option String) (e : StoreError) :
    (failure name id e).status = e.status := by
  unfold failure
  split <;> rfl

theorem version_failure (name id : Option String) (e : StoreError) :
    (failure name id e).version = none := by
  unfold failure
  split <;> rfl

/-- The version that an item tells is that of the answer. -/
theorem version_outcome (name : String) (id : Option String) (answer : Except StoreError Written) :
    (outcome name id answer).version = answer.toOption.map Written.version := by
  cases answer with
  | ok w => rfl
  | error e => exact version_failure (some name) id e

/-- Why a delete finds no document in an index that is missing. -/
def absent (id : String) : Option Version → StoreError
  | none => .documentMissing id
  | some v => .conflict id (.noDocument v)

/-- What one action of a bulk request is answered and leaves behind. -/
inductive Done (s : Store) (defaultIndex : Option String) (a : Action) : Wire.Item → Store → Prop
  /-- Without an index nothing is done. -/
  | nowhere (nowhere : a.index.or defaultIndex = none) :
    Done s defaultIndex a ⟨a.kind, failure none a.id (.request .noIndexNamed)⟩ s
  /-- Without an id nothing is done; only for a create one is made up. -/
  | nameless {name : String} (there : a.index.or defaultIndex = some name)
    (kind : a.kind ≠ .create) (nameless : a.id = none) :
    Done s defaultIndex a ⟨a.kind, failure (some name) none (.request .noIdNamed)⟩ s
  /-- Without a document nothing is written, but the index is made, and an id made up. -/
  | sourceless {name : String} (there : a.index.or defaultIndex = some name)
    (kind : a.kind ≠ .delete) (named : a.kind = .create ∨ a.id.isSome)
    (sourceless : a.source = none) :
    Done s defaultIndex a
      ⟨a.kind, failure (some name) (s.actionId a).1 (.request .noSource)⟩
      ((s.actionId a).2.createIndex name)
  /-- A document is written as by a single write, after which there is an index. -/
  | write {name : String} {source : Bytes} (there : a.index.or defaultIndex = some name)
    (kind : a.kind ≠ .delete) (named : a.kind = .create ∨ a.id.isSome)
    (given : a.source = some source) :
    Done s defaultIndex a
      ⟨a.kind, outcome name (s.actionId a).1 (s.write name a.id a.kind a.version source .none).1⟩
      ((s.write name a.id a.kind a.version source .none).2.createIndex name)
  /-- A document is deleted as by a single delete. -/
  | delete {name id : String} (there : a.index.or defaultIndex = some name)
    (kind : a.kind = .delete) (named : a.id = some id) (exists_index : s.hasIndex name) :
    Done s defaultIndex a ⟨a.kind, outcome name (some id) (s.delete name id a.version .none).1⟩
      (s.delete name id a.version .none).2
  /-- A delete makes the index where a single delete finds none. -/
  | deleteNowhere {name id : String} (there : a.index.or defaultIndex = some name)
    (kind : a.kind = .delete) (named : a.id = some id) (missing : s.hasIndex name = false) :
    Done s defaultIndex a ⟨a.kind, failure (some name) (some id) (absent id a.version)⟩
      (s.createIndex name)

section OneAction

variable (s : Store) (name id : String)

theorem hasIndex_setIndex (ix : Index) : (s.setIndex name ix).hasIndex name = true := by
  rw [hasIndex, setIndex, Table.contains, Table.find?_insert, if_pos rfl]
  rfl

/-- An action on a document without an index: the delete finds an empty one. -/
theorem deleteAt_of_missing (required : Option Version) (missing : s.hasIndex name = false) :
    s.deleteAt name id required = (.error (absent id required), s.createIndex name) := by
  have nothing : s.indexOrEmpty name = .empty := by
    rw [hasIndex, Table.contains, Option.isSome_eq_false_iff, Option.isNone_iff_eq_none] at missing
    rw [indexOrEmpty, missing]
    rfl
  rw [deleteAt, createIndex, nothing]
  cases required <;> rfl

/-- Where there is an index, a delete of a bulk request is a single delete. -/
theorem deleteAt_of_hasIndex (required : Option Version) (there : s.hasIndex name = true) :
    s.deleteAt name id required = s.delete name id required .none := by
  obtain ⟨ix, found⟩ := Option.isSome_iff_exists.1 there
  have here : s.index name = .ok ix := by rw [index, found]
  simp only [delete, here]
  split
  · next h => exact h
  · next h => exact h

/-- A write leaves its index, so to make it then changes nothing. -/
theorem createIndex_writeAt (mode : WriteMode) (required : Option Version) (source : Value) :
    (s.writeAt name mode id required source).2.createIndex name =
      (s.writeAt name mode id required source).2 := by
  obtain ⟨e, refused⟩ | ⟨result, -, put⟩ := s.writeAt_cases name id mode required source
  · rw [refused]
    exact createIndex_of_hasIndex _ name (s.hasIndex_setIndex name _)
  · rw [put]
    exact createIndex_of_hasIndex _ name (s.hasIndex_setIndex name _)

/-- The document of an action is the one that a single write goes to. -/
theorem address_eq_actionId {s s' : Store} {a : Action} {id : String} {mode : WriteMode}
    (kind : a.kind.mode? = some mode) (addressed : s.actionId a = (some id, s')) :
    s.address a.kind a.id = (.ok (mode, id), s') := by
  unfold actionId at addressed
  cases given : a.id with
  | some given =>
    rw [given] at addressed
    obtain ⟨rfl, rfl⟩ := Prod.mk.inj addressed |>.imp_left Option.some.inj
    simp only [address, kind]
  | none =>
    rw [given] at addressed
    by_cases create : a.kind = .create
    · rw [if_pos create] at addressed
      obtain ⟨rfl, rfl⟩ := Prod.mk.inj addressed |>.imp_left Option.some.inj
      rw [create] at kind ⊢
      obtain rfl := Option.some.inj kind
      rfl
    · rw [if_neg create] at addressed
      cases congrArg Prod.fst addressed

/-- An action with a document is a single write, after which there is an index. -/
theorem applyAt_eq_write {s s' : Store} {a : Action} {id : String} {source : Bytes}
    (kind : a.kind ≠ .delete) (addressed : s.actionId a = (some id, s'))
    (given : a.source = some source) :
    s'.applyAt name id a = ((s.write name a.id a.kind a.version source .none).1,
      (s.write name a.id a.kind a.version source .none).2.createIndex name) := by
  obtain ⟨mode, writes⟩ : ∃ mode, a.kind.mode? = some mode := by
    cases h : a.kind with
    | create => exact ⟨_, rfl⟩
    | index => exact ⟨_, rfl⟩
    | delete => exact absurd h kind
  simp only [applyAt, write, writes, given, address_eq_actionId writes addressed]
  cases parsed : parseSource source with
  | error e => rfl
  | ok v =>
    have made := s'.createIndex_writeAt name id mode a.version v
    dsimp only
    split
    · next h =>
      rw [h] at made ⊢
      exact congrArg (Prod.mk _) made.symm
    · next h =>
      rw [h] at made ⊢
      exact congrArg (Prod.mk _) made.symm

end OneAction

/-- An action without an id has none, unless it is a create; the id of a delete is its own. -/
theorem actionId_cases (s : Store) (a : Action) :
    (a.id = none ∧ a.kind ≠ .create ∧ s.actionId a = (none, s)) ∨
      ∃ id s', (a.kind = .create ∨ a.id.isSome) ∧ s.actionId a = (some id, s') ∧
        (a.kind = .delete → a.id = some id ∧ s' = s) := by
  unfold actionId
  cases given : a.id with
  | some id => exact .inr ⟨id, s, .inr rfl, rfl, fun _ => ⟨rfl, rfl⟩⟩
  | none =>
    by_cases create : a.kind = .create
    · exact .inr ⟨_, _, .inl create, if_pos create, fun delete => by simp [create] at delete⟩
    · exact .inl ⟨rfl, create, if_neg create⟩

/-- The item of an action at a document is told by the answer. -/
theorem apply_of_actionId {s s' : Store} {defaultIndex : Option String} {a : Action}
    {name id : String} (there : a.index.or defaultIndex = some name)
    (addressed : s.actionId a = (some id, s')) :
    s.apply defaultIndex a = (⟨a.kind, outcome name (some id) (s'.applyAt name id a).1⟩,
      (s'.applyAt name id a).2) := by
  simp only [apply, there, addressed]
  cases s'.applyAt name id a with
  | mk answer s'' => cases answer <;> rfl

section Done

variable {s s' : Store} {defaultIndex : Option String} {a : Action} {name id : String}

theorem done_delete (there : a.index.or defaultIndex = some name) (kind : a.kind = .delete)
    (named : a.id = some id) :
    s.Done defaultIndex a ⟨a.kind, outcome name (some id) (s.applyAt name id a).1⟩
      (s.applyAt name id a).2 := by
  have deletes : s.applyAt name id a = s.deleteAt name id a.version := by
    simp only [applyAt, kind, Action.Kind.mode?]
  rw [deletes]
  cases index : s.hasIndex name with
  | true =>
    rw [s.deleteAt_of_hasIndex name id a.version index]
    exact .delete there kind named index
  | false =>
    rw [s.deleteAt_of_missing name id a.version index]
    exact .deleteNowhere there kind named index

theorem done_write (there : a.index.or defaultIndex = some name) (kind : a.kind ≠ .delete)
    (named : a.kind = .create ∨ a.id.isSome) (addressed : s.actionId a = (some id, s')) :
    s.Done defaultIndex a ⟨a.kind, outcome name (some id) (s'.applyAt name id a).1⟩
      (s'.applyAt name id a).2 := by
  cases given : a.source with
  | some source =>
    have written : s.Done defaultIndex a _ _ := .write there kind named given
    rw [addressed] at written
    rwa [applyAt_eq_write name kind addressed given]
  | none =>
    have refused : s'.applyAt name id a =
        (.error (.request .noSource), s'.createIndex name) := by
      unfold applyAt
      rw [given]
      cases h : a.kind with
      | create => rfl
      | index => rfl
      | delete => exact absurd h kind
    have made : s.Done defaultIndex a _ _ := .sourceless there kind named given
    rw [addressed] at made
    rwa [refused]

/-- An action of a bulk request is done as the single operation that it stands for. -/
theorem done_apply (s : Store) (defaultIndex : Option String) (a : Action) :
    s.Done defaultIndex a (s.apply defaultIndex a).1 (s.apply defaultIndex a).2 := by
  cases there : a.index.or defaultIndex with
  | none =>
    simp only [apply, there]
    exact .nowhere there
  | some name =>
    obtain ⟨nameless, kind, refused⟩ | ⟨id, s', named, addressed, own⟩ := s.actionId_cases a
    · simp only [apply, there, refused]
      exact .nameless there kind nameless
    · rw [apply_of_actionId there addressed]
      by_cases kind : a.kind = .delete
      · obtain ⟨given, rfl⟩ := own kind
        exact done_delete there kind given
      · exact done_write there kind named addressed

end Done

/-! ## Actions one after another -/

/-- Actions that are done one after another, each on the store that the ones before it left. -/
inductive Singly (defaultIndex : Option String) :
    Store → List Action → List Wire.Item → Store → Prop
  | nil (s : Store) : Singly defaultIndex s [] [] s
  | cons {s s' s'' : Store} {a : Action} {as : List Action} {item : Wire.Item}
    {items : List Wire.Item} (first : s.Done defaultIndex a item s')
    (rest : Singly defaultIndex s' as items s'') :
    Singly defaultIndex s (a :: as) (item :: items) s''

theorem singly_applyAll (s : Store) (defaultIndex : Option String) (as : List Action) :
    Singly defaultIndex s as (s.applyAll defaultIndex as).1 (s.applyAll defaultIndex as).2 := by
  induction as generalizing s with
  | nil => exact .nil s
  | cons a as ih => exact .cons (s.done_apply defaultIndex a) (ih _)

/-- An item tells the kind of its action, and its id if it has one; an action that lacks what it
needs fails as a malformed request. -/
structure Answers (defaultIndex : Option String) (a : Action) (item : Wire.Item) : Prop where
  kind : item.kind = a.kind
  id : ∀ id, a.id = some id → item.outcome.id = some id
  lacking : a.index.or defaultIndex = none ∨ (a.kind ≠ .create ∧ a.id = none) ∨
    (a.kind ≠ .delete ∧ a.source = none) → item.outcome.status = 400

section Answers

variable {s s' : Store} {defaultIndex : Option String} {name id : String} {w : Written}

theorem id_of_write {kind : Action.Kind} {required : Option Version} {source : Bytes}
    {refresh : RefreshPolicy}
    (h : (s.write name (some id) kind required source refresh).1 = .ok w) : w.id = id := by
  unfold write address at h
  cases mode : kind.mode? with
  | none =>
    rw [mode] at h
    cases h
  | some mode' =>
    rw [mode] at h
    dsimp only at h
    split at h
    · cases h
    · next v _ =>
      obtain ⟨e, refused⟩ | ⟨result, -, put⟩ := s.writeAt_cases name id mode' required v
      · rw [refused] at h
        cases h
      · rw [put] at h
        rw [← Except.ok.inj h]

theorem id_of_delete {required : Option Version} {refresh : RefreshPolicy}
    (h : (s.delete name id required refresh).1 = .ok w) : w.id = id := by
  unfold delete at h
  split at h
  · cases h
  · obtain ⟨e, refused⟩ | removed := s.deleteAt_cases name id required
    · rw [refused] at h
      cases h
    · rw [removed] at h
      rw [← Except.ok.inj h]

theorem id_failure (name id : Option String) (e : StoreError) : (failure name id e).id = id := by
  unfold failure
  split <;> rfl

/-- The outcome of a single operation is that of its document. -/
theorem id_outcome {answer : Except StoreError Written} (same : ∀ w, answer = .ok w → w.id = id) :
    (outcome name (some id) answer).id = some id := by
  cases answer with
  | ok w => exact congrArg some (same w rfl)
  | error e => exact id_failure (some name) (some id) e

theorem Done.answers {a : Action} {item : Wire.Item} (h : s.Done defaultIndex a item s') :
    Answers defaultIndex a item := by
  cases h with
  | nowhere nowhere =>
    exact ⟨rfl, fun id named => (id_failure none a.id _).trans named, fun _ => rfl⟩
  | nameless there kind nameless =>
    exact ⟨rfl, fun id named => by simp [nameless] at named, fun _ => rfl⟩
  | sourceless there kind named sourceless =>
    refine ⟨rfl, fun id own => ?_, fun _ => status_failure _ _ _⟩
    rw [id_failure, actionId, own]
  | @write name source there kind named given =>
    refine ⟨rfl, fun id own => ?_, fun lacking => ?_⟩
    · rw [actionId, own]
      exact id_outcome fun w written => id_of_write written
    · rcases lacking with nowhere | ⟨kind', nameless⟩ | ⟨-, sourceless⟩
      · simp [nowhere] at there
      · simp [kind', nameless] at named
      · simp [sourceless] at given
  | @delete name id there kind named index =>
    refine ⟨rfl, fun id' own => ?_, fun lacking => ?_⟩
    · obtain rfl := Option.some.inj (named.symm.trans own)
      exact id_outcome fun w deleted => id_of_delete deleted
    · simp [there, kind, named] at lacking
  | deleteNowhere there kind named missing =>
    refine ⟨rfl, fun id' own => ?_, fun lacking => ?_⟩
    · rw [id_failure, ← named, own]
    · simp [there, kind, named] at lacking

theorem Singly.answers {as : List Action} {items : List Wire.Item}
    (h : Singly defaultIndex s as items s') : List.Forall₂ (Answers defaultIndex) as items := by
  induction h with
  | nil => exact .nil
  | cons first _ ih => exact .cons first.answers ih

end Answers

/-! ## Publishing at the end -/

/-- Whether some item succeeded on an index. -/
def SucceededOn (items : List Wire.Item) (name : String) : Prop :=
  ∃ i ∈ items, i.outcome.isSuccess ∧ i.outcome.index = some name

/-- A store, and what it is after just the indices on which some item succeeded were refreshed,
where the policy asks for that. -/
structure Refreshed (refresh : RefreshPolicy) (items : List Wire.Item) (s s' : Store) : Prop where
  config : s'.config = s.config
  named : s'.named = s.named
  hasIndex : ∀ name, s'.hasIndex name = s.hasIndex name
  visible : ∀ name, refresh.makesVisible → SucceededOn items name →
    s'.indexOrEmpty name = (s.indexOrEmpty name).publish
  unseen : ∀ name, ¬ (refresh.makesVisible ∧ SucceededOn items name) →
    s'.indexOrEmpty name = s.indexOrEmpty name

section Refreshed

variable (s : Store)

theorem mem_touched_iff {items : List Wire.Item} {name : String} :
    name ∈ touched items ↔ SucceededOn items name := by
  rw [mem_touched, List.any_eq_true]
  refine exists_congr fun i => and_congr_right fun _ => ?_
  rw [Bool.and_eq_true, beq_iff_eq]

theorem hasIndex_publish (target name : String) :
    (s.publish target).hasIndex name = s.hasIndex name := by
  unfold publish
  split
  · rfl
  · next ix found =>
    rw [hasIndex, hasIndex, setIndex, Table.contains, Table.contains, Table.find?_insert]
    split
    · next h => rw [h, found]; rfl
    · rfl

theorem hasIndex_settleAll (refresh : RefreshPolicy) (targets : List String) (name : String) :
    (targets.foldl (fun s target => s.settle target refresh) s).hasIndex name =
      s.hasIndex name := by
  induction targets generalizing s with
  | nil => rfl
  | cons target targets ih =>
    rw [List.foldl_cons, ih, settle]
    split
    · exact s.hasIndex_publish target name
    · rfl

theorem named_settleAll (refresh : RefreshPolicy) (targets : List String) :
    (targets.foldl (fun s target => s.settle target refresh) s).named = s.named := by
  induction targets generalizing s with
  | nil => rfl
  | cons target targets ih =>
    rw [List.foldl_cons, ih, settle]
    split
    · exact s.named_publish target
    · rfl

theorem refreshed_settleAll (refresh : RefreshPolicy) (items : List Wire.Item) :
    Refreshed refresh items s
      ((touched items).foldl (fun s target => s.settle target refresh) s) where
  config := (sameDocuments_settleAll s refresh _).config
  named := s.named_settleAll refresh _
  hasIndex := s.hasIndex_settleAll refresh _
  visible name visible succeeded := by
    rw [indexOrEmpty_settleAll, if_pos ⟨mem_touched_iff.2 succeeded, visible⟩]
  unseen name unseen := by
    rw [indexOrEmpty_settleAll, if_neg]
    exact fun both => unseen ⟨both.2, mem_touched_iff.1 both.1⟩

end Refreshed

/-! ## Bulk requests -/

/-- A bulk request with too many actions is refused and does nothing. Any other one is the
sequence of its items done singly, and then the refreshes of just the indices on which some item
succeeded, if it asks for that; the items themselves change nothing of what searches see. -/
theorem bulk_singly (s : Store) (defaultIndex : Option String) (actions : List Action)
    (refresh : RefreshPolicy) :
    (s.config.maxActions < actions.length → s.bulk defaultIndex actions refresh =
      (.error (.request (.tooManyActions actions.length s.config.maxActions)), s)) ∧
    (actions.length ≤ s.config.maxActions → ∃ items s',
      (s.bulk defaultIndex actions refresh).1 = .ok (.ofItems 0 items) ∧
      List.Forall₂ (Answers defaultIndex) actions items ∧
      Singly defaultIndex s actions items s' ∧ s.SamePublished s' ∧
      Refreshed refresh items s' (s.bulk defaultIndex actions refresh).2) := by
  refine ⟨fun many => if_pos many, fun few => ?_⟩
  have singly := s.singly_applyAll defaultIndex actions
  refine ⟨_, _, ?_, singly.answers, singly, s.samePublished_applyAll defaultIndex actions, ?_⟩
  · rw [s.bulk_of_few defaultIndex few]
  · rw [s.bulk_of_few defaultIndex few]
    exact refreshed_settleAll _ refresh _

/-- A document is put, put again, and once more under the version it no longer has. -/
def contended : List Action :=
  [.put "1" none (word "\x7b\x7d"), .put "1" (some ⟨1, 0⟩) (word "\x7b\x7d"),
    .put "1" (some ⟨1, 0⟩) (word "\x7b\x7d")]

/-- The second item sees what the first one did, and the third one what the second one did. -/
theorem bulk_contended :
    contended.length ≤ (empty {}).config.maxActions ∧ ∃ items s',
      Singly (some "a") (empty {}) contended items s' ∧
      Refreshed .immediate items s' ((empty {}).bulk (some "a") contended .immediate).2 ∧
      items.map (·.outcome.status) = [201, 200, 409] := by
  have few : contended.length ≤ (empty {}).config.maxActions := by decide
  obtain ⟨items, s', answer, -, singly, -, refreshed⟩ :=
    (bulk_singly (empty {}) (some "a") contended .immediate).2 few
  refine ⟨few, items, s', singly, refreshed, ?_⟩
  have told : ((empty {}).bulk (some "a") contended .immediate).1.map
      (fun r => r.items.map (·.outcome.status)) = .ok [201, 200, 409] := by decide +kernel
  rw [answer] at told
  exact Except.ok.inj told

/-- A delete that expects a version, in an index that is missing: in a bulk request it is a conflict
and makes the index, by itself it finds no index and makes none. -/
theorem bulk_delete_nowhere :
    let s := empty {}
    let bulk := s.bulk (some "things") [.delete "a" (some ⟨1, 0⟩)] .none
    let single := s.delete "things" "a" (some ⟨1, 0⟩) .none
    bulk.1.map (fun r => r.items.map (·.outcome.status)) = .ok [409] ∧
      single.1 = .error (.indexMissing "things") ∧
      (StoreError.indexMissing "things").status = 404 ∧
      bulk.2.hasIndex "things" = true ∧ single.2.hasIndex "things" = false := by
  decide +kernel

end Store

end VersionedStore
