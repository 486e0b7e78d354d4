import VersionedStore.Proofs.Store.Reach

/-!
# What searches see

Searches of an index see the documents that were live right after it was last published: by a
refresh, by a successful write or delete that asked to be visible, or by a bulk request that
asked for it and of which some item succeeded on the index. Whatever else happens to the store
is not seen before the next publication.

## Main definitions

* `Store.publishes` — whether an operation publishes an index
* `Store.publication?` — the store right after the last publication of an index in a run
* `Store.SamePublished` — stores whose searches see the same documents

## Main results

* `Store.published_execute` — what an operation makes searches see
* `Store.searches_last_publication` — what searches see after a run
-/

namespace VersionedStore

open Json

namespace Store

/-! ## Publications -/

/-- Whether an operation publishes an index: a refresh of it does, a successful write or delete
that asks to be visible, and a bulk request that asks for it and has an item that succeeded on
the index. -/
def publishes (s : Store) (name : String) : Operation → Bool
  | .createIndex _ => false
  | .write target id kind required source refresh =>
    target == name && refresh.makesVisible &&
      (s.write target id kind required source refresh).1.isOk
  | .delete target id required refresh =>
    target == name && refresh.makesVisible && (s.delete target id required refresh).1.isOk
  | .bulk defaultIndex actions refresh =>
    refresh.makesVisible && match (s.bulk defaultIndex actions refresh).1 with
      | .error _ => false
      | .ok reply => reply.items.any fun i => i.outcome.isSuccess && i.outcome.index == some name
  | .refresh target => target == name

/-- The store right after the last operation of a run that published an index, if there is one. -/
def publication? (s : Store) (name : String) : List Operation → Option Store
  | [] => none
  | o :: os =>
    let after := (s.execute o).2
    (after.publication? name os).or (if s.publishes name o then some after else none)

/-- The last publication of a longer run is its last operation, if that one published the
index, else the one before. -/
theorem publication?_concat (s : Store) (name : String) (os : List Operation) (o : Operation) :
    s.publication? name (os ++ [o]) =
      if (s.executeAll os).2.publishes name o then some (s.executeAll (os ++ [o])).2
      else s.publication? name os := by
  induction os generalizing s with
  | nil => rfl
  | cons o' os ih =>
    rw [List.cons_append, publication?, ih, publication?, executeAll, executeAll]
    split
    · rfl
    · rfl

/-! ## Stores that publish the same -/

/-- Whether searches see the same documents in two stores. -/
def SamePublished (s s' : Store) : Prop :=
  ∀ name, (s'.indexOrEmpty name).published = (s.indexOrEmpty name).published

namespace SamePublished

variable {s s' s'' : Store}

theorem refl (s : Store) : s.SamePublished s := fun _ => rfl

theorem trans (h : s.SamePublished s') (h' : s'.SamePublished s'') : s.SamePublished s'' :=
  fun name => (h' name).trans (h name)

/-- An index may be replaced by one with the same published documents. -/
theorem setIndex (s : Store) {name : String} {ix : Index}
    (same : ix.published = (s.indexOrEmpty name).published) :
    s.SamePublished (s.setIndex name ix) := by
  intro other
  rw [indexOrEmpty_setIndex]
  split
  · next h => rw [h, same]
  · rfl

end SamePublished

/-! ## Operations before they publish -/

section Unpublished

variable (s : Store) (name id : String)

/-- Documents that are put are not published with it. -/
theorem samePublished_writeAt (mode : WriteMode) (required : Option Version) (source : Value) :
    s.SamePublished (s.writeAt name mode id required source).2 := by
  obtain ⟨e, refused⟩ | ⟨result, -, put⟩ := s.writeAt_cases name id mode required source
  · rw [refused]
    exact .setIndex s rfl
  · rw [put]
    exact .setIndex s rfl

theorem samePublished_deleteAt (required : Option Version) :
    s.SamePublished (s.deleteAt name id required).2 := by
  obtain ⟨e, refused⟩ | removed := s.deleteAt_cases name id required
  · rw [refused]
    exact .setIndex s rfl
  · rw [removed]
    exact .setIndex s rfl

theorem samePublished_address (kind : Action.Kind) (id : Option String) :
    s.SamePublished (s.address kind id).2 := by
  unfold address
  split <;> exact .refl s

/-- A write is one that publishes nothing and, if that succeeds, the publication it asks for. -/
theorem write_eq_settle (id : Option String) (kind : Action.Kind) (required : Option Version)
    (source : Bytes) (refresh : RefreshPolicy) :
    s.write name id kind required source refresh =
      ((s.write name id kind required source .none).1,
        if (s.write name id kind required source .none).1.isOk then
          (s.write name id kind required source .none).2.settle name refresh
        else (s.write name id kind required source .none).2) := by
  unfold write
  split
  · rfl
  · split
    · rfl
    · split <;> rfl

theorem delete_eq_settle (required : Option Version) (refresh : RefreshPolicy) :
    s.delete name id required refresh =
      ((s.delete name id required .none).1,
        if (s.delete name id required .none).1.isOk then
          (s.delete name id required .none).2.settle name refresh
        else (s.delete name id required .none).2) := by
  unfold delete
  split
  · rfl
  · split <;> rfl

/-- A write that does not ask to be visible publishes nothing. -/
theorem samePublished_write (id : Option String) (kind : Action.Kind) (required : Option Version)
    (source : Bytes) : s.SamePublished (s.write name id kind required source .none).2 := by
  have addressed := s.samePublished_address kind id
  unfold write
  split
  · next h => rwa [h] at addressed
  · next mode id s₁ h =>
    rw [h] at addressed
    split
    · exact addressed
    · next v _ =>
      have written := addressed.trans (s₁.samePublished_writeAt name id mode required v)
      split
      · next h' => rwa [h'] at written
      · next h' => rwa [h'] at written

theorem samePublished_delete (required : Option Version) :
    s.SamePublished (s.delete name id required .none).2 := by
  have deleted := s.samePublished_deleteAt name id required
  unfold delete
  split
  · exact .refl s
  · split
    · next h => rwa [h] at deleted
    · next h => rwa [h] at deleted

theorem samePublished_applyAt (a : Action) : s.SamePublished (s.applyAt name id a).2 := by
  unfold applyAt
  split
  · exact s.samePublished_deleteAt name id a.version
  · split
    · exact .setIndex s rfl
    · split
      · exact .setIndex s rfl
      · exact s.samePublished_writeAt name id _ a.version _

theorem samePublished_actionId (a : Action) : s.SamePublished (s.actionId a).2 := by
  unfold actionId
  split
  · exact .refl s
  · split <;> exact .refl s

theorem samePublished_apply (defaultIndex : Option String) (a : Action) :
    s.SamePublished (s.apply defaultIndex a).2 := by
  unfold apply
  split
  · exact .refl s
  · next name _ =>
    have drawn := s.samePublished_actionId a
    split
    · next h => rwa [h] at drawn
    · next id s₁ h =>
      rw [h] at drawn
      have applied := drawn.trans (s₁.samePublished_applyAt name id a)
      split
      · next h' => rwa [h'] at applied
      · next h' => rwa [h'] at applied

/-- The actions of a bulk request publish nothing. -/
theorem samePublished_applyAll (defaultIndex : Option String) (as : List Action) :
    s.SamePublished (s.applyAll defaultIndex as).2 := by
  induction as generalizing s with
  | nil => exact .refl s
  | cons a as ih => exact (s.samePublished_apply defaultIndex a).trans (ih _)

end Unpublished

/-! ## Publishing -/

/-- To publish again changes nothing. -/
theorem publish_publish (ix : Index) : ix.publish.publish = ix.publish := by
  unfold Index.publish
  by_cases dirty : ix.dirty
  · simp [dirty]
  · simp [dirty]

section Published

variable {s : Store} (name : String)

theorem indexOrEmpty_settle (s : Store) (target : String) (refresh : RefreshPolicy) :
    (s.settle target refresh).indexOrEmpty name =
      if target = name ∧ refresh.makesVisible then (s.indexOrEmpty name).publish
      else s.indexOrEmpty name := by
  unfold settle
  cases refresh.makesVisible with
  | false => simp
  | true =>
    by_cases h : target = name
    · simp [h, indexOrEmpty_publish]
    · simp [h, Ne.symm h, indexOrEmpty_publish]

/-- To settle some indices is to publish them, however often they come. -/
theorem indexOrEmpty_settleAll (s : Store) (refresh : RefreshPolicy) (targets : List String) :
    (targets.foldl (fun s target => s.settle target refresh) s).indexOrEmpty name =
      if name ∈ targets ∧ refresh.makesVisible then (s.indexOrEmpty name).publish
      else s.indexOrEmpty name := by
  induction targets generalizing s with
  | nil => simp
  | cons target targets ih =>
    rw [List.foldl_cons, ih, indexOrEmpty_settle]
    -- The index may be settled now, or later on, or both.
    by_cases visible : refresh.makesVisible
    · by_cases h : target = name
      · simp [h, visible, publish_publish]
      · simp [h, Ne.symm h, visible]
    · simp [visible]

/-- A publication makes searches of an index see what reads see. -/
theorem Clean.published_of_publish (clean : s.Clean) :
    (s.indexOrEmpty name).publish.published = (s.indexOrEmpty name).live := by
  have published := clean.published name
  rwa [indexOrEmpty_publish, if_pos rfl] at published

theorem Clean.published_settle (clean : s.Clean) (target : String) (refresh : RefreshPolicy) :
    ((s.settle target refresh).indexOrEmpty name).published =
      if target = name ∧ refresh.makesVisible then (s.indexOrEmpty name).live
      else (s.indexOrEmpty name).published := by
  rw [indexOrEmpty_settle, apply_ite Index.published, clean.published_of_publish]

/-- After some indices were settled searches of these see what reads see. -/
theorem Clean.published_settleAll (clean : s.Clean) (refresh : RefreshPolicy)
    (targets : List String) :
    ((targets.foldl (fun s target => s.settle target refresh) s).indexOrEmpty name).published =
      if name ∈ targets ∧ refresh.makesVisible then (s.indexOrEmpty name).live
      else (s.indexOrEmpty name).published := by
  rw [indexOrEmpty_settleAll, apply_ite Index.published, clean.published_of_publish]

theorem sameDocuments_settleAll (s : Store) (refresh : RefreshPolicy) (targets : List String) :
    s.SameDocuments (targets.foldl (fun s target => s.settle target refresh) s) := by
  induction targets generalizing s with
  | nil => exact ⟨rfl, fun _ => rfl, fun _ => rfl⟩
  | cons target targets ih =>
    have settled := s.sameDocuments_settle target refresh
    have rest := ih (s.settle target refresh)
    exact ⟨rest.config.trans settled.config, fun n => (rest.live n).trans (settled.live n),
      fun n => (rest.writes n).trans (settled.writes n)⟩

theorem mem_touched {items : List Wire.Item} :
    name ∈ touched items ↔
      (items.any fun i => i.outcome.isSuccess && i.outcome.index == some name) = true := by
  rw [touched, List.mem_filterMap, List.any_eq_true]
  refine exists_congr fun i => and_congr_right fun _ => ?_
  by_cases h : i.outcome.isSuccess
  · simp [h]
  · simp [h]

/-- A successful write or delete of one index that is then settled publishes this index, if it
asks to be visible; one that was refused publishes nothing. -/
theorem Clean.published_single {answer : Except StoreError Written} {s' : Store} (clean : s'.Clean)
    (same : s.SamePublished s') (target : String) (refresh : RefreshPolicy) :
    ((if answer.isOk then s'.settle target refresh else s').indexOrEmpty name).published =
      if target == name && refresh.makesVisible && answer.isOk then
        ((if answer.isOk then s'.settle target refresh else s').indexOrEmpty name).live
      else (s.indexOrEmpty name).published := by
  cases answer.isOk with
  | false => simpa using same name
  | true => simpa [(s'.sameDocuments_settle target refresh).live, same name] using
      clean.published_settle name target refresh

/-- A bulk request publishes the indices on which an item succeeded, after all its actions. -/
theorem Clean.published_bulk (clean : s.Clean) (defaultIndex : Option String)
    (as : List Action) (refresh : RefreshPolicy) :
    ((s.bulk defaultIndex as refresh).2.indexOrEmpty name).published =
      if s.publishes name (.bulk defaultIndex as refresh) then
        ((s.bulk defaultIndex as refresh).2.indexOrEmpty name).live
      else (s.indexOrEmpty name).published := by
  by_cases few : as.length ≤ s.config.maxActions
  · have applied := (s.reaches_applyAll defaultIndex as).clean clean
    rw [publishes, s.bulk_of_few defaultIndex few, applied.published_settleAll name,
      s.samePublished_applyAll defaultIndex as name, (sameDocuments_settleAll _ refresh _).live]
    simp only [mem_touched, Wire.BulkReply.ofItems, Bool.and_eq_true, and_comm]
  · simp [publishes, bulk, Nat.lt_of_not_le few]

/-- What an operation makes searches see: if it publishes the index, what reads see after it, and
else what they saw before. -/
theorem Clean.published_execute (clean : s.Clean) (o : Operation) :
    ((s.execute o).2.indexOrEmpty name).published =
      if s.publishes name o then ((s.execute o).2.indexOrEmpty name).live
      else (s.indexOrEmpty name).published := by
  cases o with
  | createIndex target =>
    have created : s.SamePublished (s.createIndex target) := .setIndex s rfl
    exact created name
  | write target id kind required source refresh =>
    have written := (s.reaches_write target id kind required source .none).clean clean
    rw [execute, publishes, write_eq_settle]
    exact written.published_single name (s.samePublished_write target id kind required source)
      target refresh
  | delete target id required refresh =>
    have deleted := (s.reaches_delete target id required .none).clean clean
    rw [execute, publishes, delete_eq_settle]
    exact deleted.published_single name (s.samePublished_delete target id required) target refresh
  | bulk defaultIndex as refresh => exact clean.published_bulk name defaultIndex as refresh
  | refresh target =>
    have refreshed := clean.published_settle name target .immediate
    rw [publishes, execute, refresh_eq, (s.sameDocuments_publish target).live]
    simpa [settle, RefreshPolicy.makesVisible] using refreshed

/-- After a run searches see what reads saw right after the last publication, or what they saw at
the start, if nothing was published. -/
theorem Clean.published_executeAll (clean : s.Clean) (os : List Operation) :
    ((s.executeAll os).2.indexOrEmpty name).published =
      (s.publication? name os).elim (s.indexOrEmpty name).published
        fun t => (t.indexOrEmpty name).live := by
  induction os generalizing s with
  | nil => rfl
  | cons o os ih =>
    have step := clean.published_execute name o
    rw [executeAll, publication?, ih ((s.reaches_execute o).clean clean)]
    -- A later publication overrides the one of this operation.
    cases (s.execute o).2.publication? name os with
    | some t => rfl
    | none =>
      by_cases h : s.publishes name o
      · simpa [h] using step
      · simpa [h] using step

end Published

/-! ## Searches and readings -/

section Seen

/-- The answer to a reading that finds a document, or none. -/
def reading (name id : String) : Option Document → Wire.GetReply
  | none => ⟨name, id, false, none, none, none⟩
  | some d => ⟨name, id, true, some d.version.sequence, some d.version.epoch, some d.source⟩

/-- What a hit of a search, or none, tells of a document, as a reading tells it. -/
def readingOfHit (name id : String) : Option Wire.RawHit → Wire.GetReply
  | none => ⟨name, id, false, none, none, none⟩
  | some h => ⟨h.index, h.id, true, h.sequence, h.epoch, h.source⟩

variable (s : Store) (name : String)

theorem get_eq_reading (id : String) :
    s.get name id = (s.index name).map fun _ => reading name id (s.document? name id) := by
  unfold get document? indexOrEmpty index
  cases s.indices.find? name with
  | none => rfl
  | some ix =>
    cases found : ix.live.find? id with
    | none => simp [reading, Except.map, bind, Except.bind, pure, Except.pure, found]
    | some d => simp [reading, Except.map, bind, Except.bind, pure, Except.pure, found]

theorem search_eq_published (q : Query) (versions : Bool) :
    s.search name q versions = (s.index name).map fun _ =>
      ((s.indexOrEmpty name).published.toList.filter fun e => q.accepts e.1 e.2.source).map
        (hit name versions) := by
  unfold search indexOrEmpty index
  cases s.indices.find? name <;> rfl

theorem count_eq_published (q : Query) :
    s.count name q = (s.index name).map fun _ => UInt64.ofNat
      ((s.indexOrEmpty name).published.toList.filter fun e => q.accepts e.1 e.2.source).length := by
  unfold count indexOrEmpty index
  cases s.indices.find? name <;> rfl

/-- In the hits of all documents of a table each of its documents is found by its id. -/
theorem readingOfHit_all (t : Table Document) (id : String) :
    readingOfHit name id (((t.toList.filter fun e => Query.all.accepts e.1 e.2.source).map
      (hit name true)).find? fun h => h.id == id) = reading name id (t.find? id) := by
  rw [Table.find?, Table.toList]
  induction t.entries with
  | nil => rfl
  | cons e es ih =>
    by_cases h : e.1 = id
    · subst h
      simp [Query.accepts, Entries.find?, hit, reading, readingOfHit]
    · simpa [Query.accepts, Entries.find?, hit, h] using ih

/-- After any run, searching and counting take the documents that were live right after the last
publication of the index, and no others; reading takes the live ones. Right after a publication
a search for everything and a reading agree on every id. -/
theorem searches_last_publication (config : StoreConfig) {ids : NameSupply} (os : List Operation)
    (name : String) :
    let s := ((empty config ids).executeAll os).2
    let seen : Table Document :=
      ((empty config ids).publication? name os).elim .empty fun t => (t.indexOrEmpty name).live
    (∀ q versions, s.search name q versions = (s.index name).map fun _ =>
      (seen.toList.filter fun e => q.accepts e.1 e.2.source).map (hit name versions)) ∧
    (∀ q, s.count name q = (s.index name).map fun _ =>
      UInt64.ofNat (seen.toList.filter fun e => q.accepts e.1 e.2.source).length) ∧
    (∀ id, s.get name id = (s.index name).map fun _ => reading name id (s.document? name id)) ∧
    (∀ before o, os = before ++ [o] → ((empty config ids).executeAll before).2.publishes name o →
      ∀ id, s.get name id = (s.search name .all true).map fun hits =>
        readingOfHit name id (hits.find? fun h => h.id == id)) := by
  intro s seen
  have published : (s.indexOrEmpty name).published = seen :=
    (clean_empty config).published_executeAll name os
  refine ⟨?_, ?_, ?_, ?_⟩
  · intro q versions
    rw [search_eq_published, published]
  · intro q
    rw [count_eq_published, published]
  · intro id
    exact s.get_eq_reading name id
  · intro before o split publishes id
    -- The last publication is the last operation, so what was published is what is live.
    have live : seen = (s.indexOrEmpty name).live := by
      simp only [seen, s, split, publication?_concat, if_pos publishes, Option.elim_some]
    rw [get_eq_reading, search_eq_published, published, document?, ← live]
    cases s.index name with
    | error e => rfl
    | ok ix => exact congrArg Except.ok (readingOfHit_all name seen id).symm

/-- A document is put and published, and another one is put. -/
def halfPublished : List Operation :=
  [.write "a" (some "1") .index none (word "\x7b\x7d") .none, .refresh "a",
    .write "a" (some "2") .index none (word "\x7b\x7d") .none]

/-- The second document is read, but searches find it only after one more refresh. -/
theorem searches_halfPublished :
    let s := ((empty {}).executeAll halfPublished).2
    let s' := ((empty {}).executeAll (halfPublished ++ [.refresh "a"])).2
    (s.search "a" .all true).map (fun hits => hits.map (·.id)) = .ok ["1"] ∧
      (s.get "a" "2").map (·.found) = .ok true ∧
      s.publishes "a" (.refresh "a") ∧
      s'.get "a" "2" = (s'.search "a" .all true).map fun hits =>
        readingOfHit "a" "2" (hits.find? fun h => h.id == "2") := by
  intro s s'
  have publishes : s.publishes "a" (.refresh "a") := rfl
  obtain ⟨search, -, get, -⟩ := searches_last_publication {} halfPublished "a"
  obtain ⟨-, -, -, agree⟩ :=
    searches_last_publication {} (halfPublished ++ [.refresh "a"]) "a"
  refine ⟨?_, ?_, publishes, agree halfPublished (.refresh "a") rfl publishes "2"⟩
  · rw [search]
    decide +kernel
  · rw [get]
    decide +kernel

end Seen

end Store

end VersionedStore
