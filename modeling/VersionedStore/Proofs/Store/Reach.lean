import VersionedStore.Proofs.Server.Evolution
import VersionedStore.Proofs.Store.Versions

/-!
# What steps keep

All documents, those that reads see and those that searches see, were sent as JSON; and only after
a write that was not published yet do the ones differ from the others. The steps that operations
are made of keep this, so it holds of whatever is sent to a server.

## Main definitions

* `Store.Sent` — all documents were sent as JSON
* `Store.Clean` — what was published since the last write is what reads see

## Main results

* `Store.Reaches.sent`, `Store.Reaches.clean` — steps keep both
* `Store.Reaches.published` — a document that is published stays so until it is touched
-/

namespace VersionedStore

open Json

namespace Store

variable {s s' : Store} {log : List Receipt}

/-! ## Documents that were sent -/

/-- All documents were sent as JSON, those that reads see and those that searches see. -/
def Sent (s : Store) : Prop :=
  ∀ name id d, (s.indexOrEmpty name).live.find? id = some d ∨
    (s.indexOrEmpty name).published.find? id = some d → ∃ bytes, parseSource bytes = .ok d.source

theorem sent_empty (config : StoreConfig) {ids : NameSupply} : (empty config ids).Sent := by
  intro name id d found
  simp [indexOrEmpty, empty, Index.empty] at found

/-- To put an index in place of another one, its documents must have been sent. -/
theorem Sent.setIndex {s : Store} (h : s.Sent) {ix : Index} (name : String)
    (sent : ∀ id d, ix.live.find? id = some d ∨ ix.published.find? id = some d →
      ∃ bytes, parseSource bytes = .ok d.source) : (s.setIndex name ix).Sent := by
  intro other id d found
  rw [indexOrEmpty_setIndex] at found
  split at found
  · exact sent id d found
  · exact h other id d found

theorem Reaches.sent (reaches : s.Reaches log s') (h : s.Sent) : s'.Sent := by
  induction reaches with
  | refl => exact h
  | trans _ _ first rest => exact rest (first h)
  | draw => exact h
  | create s name => exact h.setIndex name (h name)
  | @put s name id _ source parsed =>
    refine h.setIndex name fun other d found => ?_
    rw [Index.written, Table.find?_insert] at found
    split at found
    · obtain new | before := found
      · rw [← Option.some.inj new]
        exact ⟨_, parsed⟩
      · exact h name other d (.inr before)
    · exact h name other d found
  | remove s name id =>
    refine h.setIndex name fun other d found => ?_
    rw [Index.written, Table.find?_erase] at found
    split at found
    · exact h name other d (.inr (found.resolve_left (by simp)))
    · exact h name other d found
  | publish s name =>
    intro other id d found
    rw [indexOrEmpty_publish] at found
    split at found
    · unfold Index.publish at found
      split at found
      · exact h name id d (.inl (found.elim (fun live => live) fun live => live))
      · exact h name id d found
    · exact h other id d found

/-- A document that was sent is a proper object. -/
theorem Sent.proper {s : Store} (h : s.Sent) {name id : String} {d : Document}
    (found : (s.indexOrEmpty name).published.find? id = some d) :
    d.source.Proper ∧ ∃ ms, d.source = .object ms := by
  obtain ⟨bytes, parsed⟩ := h name id d (.inr found)
  obtain ⟨ms, object, proper⟩ := object_of_parseSource parsed
  exact ⟨proper, ms, object⟩

/-! ## What searches see -/

/-- Only after a write that was not published yet do searches see something else than reads. -/
def Clean (s : Store) : Prop :=
  ∀ name, (s.indexOrEmpty name).dirty = false →
    (s.indexOrEmpty name).published = (s.indexOrEmpty name).live

theorem clean_empty (config : StoreConfig) {ids : NameSupply} : (empty config ids).Clean :=
  fun _ _ => rfl

theorem Clean.setIndex {s : Store} (h : s.Clean) {ix : Index} (name : String)
    (clean : ix.dirty = false → ix.published = ix.live) : (s.setIndex name ix).Clean := by
  intro other
  rw [indexOrEmpty_setIndex]
  split
  · exact clean
  · exact h other

theorem Reaches.clean (reaches : s.Reaches log s') (h : s.Clean) : s'.Clean := by
  induction reaches with
  | refl => exact h
  | trans _ _ first rest => exact rest (first h)
  | draw => exact h
  | create s name => exact h.setIndex name (h name)
  | put s name => exact h.setIndex name fun clean => by cases clean
  | remove s name => exact h.setIndex name fun clean => by cases clean
  | publish s name =>
    intro other
    rw [indexOrEmpty_publish]
    split
    · unfold Index.publish
      split
      · exact fun _ => rfl
      · exact h name
    · exact h other

/-- After a publication searches see what reads see. -/
theorem Clean.published (h : s.Clean) (name : String) :
    ((s.publish name).indexOrEmpty name).published = (s.indexOrEmpty name).live := by
  rw [indexOrEmpty_publish, if_pos rfl, Index.publish]
  split
  · rfl
  · next clean => exact h name (by simpa using clean)

/-- A document that reads and searches see is seen by both until a receipt is about it. -/
theorem Reaches.published (reaches : s.Reaches log s') {name id : String} {d : Document}
    (live : s.document? name id = some d)
    (published : (s.indexOrEmpty name).published.find? id = some d)
    (untouched : ∀ r ∈ log, r.concerns name id = false) :
    (s'.indexOrEmpty name).published.find? id = some d := by
  induction reaches with
  | refl => exact published
  | trans first _ ihFirst ihRest =>
    rw [List.forall_mem_append] at untouched
    refine ihRest ?_ (ihFirst live published untouched.1) untouched.2
    rw [first.evolves.untouched untouched.1, live]
  | draw => exact published
  | create s other =>
    rw [createIndex, indexOrEmpty_setIndex]
    split
    · next h => rwa [← h]
    · exact published
  -- Neither a put nor a removal changes what searches see.
  | put s other | remove s other =>
    rw [indexOrEmpty_setIndex]
    split
    · next h => rwa [← h]
    · exact published
  | publish s other =>
    rw [indexOrEmpty_publish]
    split
    · next h =>
      subst h
      unfold Index.publish
      split
      · exact live
      · exact published
    · exact published

end Store

/-! ## Requests -/

/-- Whatever is sent to a server, its documents were sent as JSON. -/
theorem Server.sent_handle (s : Server) (h : s.store.Sent) (r : Request) :
    (s.handle r).2.store.Sent := by
  rw [store_handle_eq]
  exact (s.store.reaches_executeAll _).sent h

end VersionedStore
