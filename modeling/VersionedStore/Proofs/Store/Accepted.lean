import VersionedStore.Proofs.Store.Reach

/-!
# Documents that were accepted

A write, or an action of a bulk request, that is answered with success and a version has put the
document that was sent under this version. It stays there until a later operation succeeds at the
same document; and from the next publication of its index on searches see it too.

## Main definitions

* `Store.Accepts` — an operation answers that it has put a document

## Main results

* `Store.Accepts.live` — what was accepted is there
* `Store.live_executeAll`, `Store.published_executeAll` — how long it is there
-/

namespace VersionedStore

open Json

namespace Store

/-! ## What successful operations put -/

section Put

variable (s : Store) (name id : String)

theorem live_writeAt {mode : WriteMode} {required : Option Version} {source : Value} {w : Written}
    {s' : Store} (h : s.writeAt name mode id required source = (.ok w, s')) :
    w.id = id ∧ s'.document? name id = some ⟨w.version, source⟩ := by
  obtain ⟨e, refused⟩ | ⟨result, -, put⟩ := s.writeAt_cases name id mode required source
  · rw [refused] at h
    cases congrArg Prod.fst h
  · rw [put] at h
    obtain ⟨rfl, rfl⟩ := Prod.mk.inj h |>.imp_left Except.ok.inj
    refine ⟨rfl, ?_⟩
    rw [document?, indexOrEmpty_setIndex, if_pos rfl, Index.written, Table.find?_insert, if_pos rfl]

theorem live_write {id : Option String} {kind : Action.Kind} {required : Option Version}
    {payload : Bytes} {policy : RefreshPolicy} {w : Written}
    (h : (s.write name id kind required payload policy).1 = .ok w) :
    ∃ d, parseSource payload = .ok d ∧
      (s.write name id kind required payload policy).2.document? name w.id =
        some ⟨w.version, d⟩ := by
  unfold write at h ⊢
  split at h
  · cases h
  · next mode id' s₁ addressed =>
    split at h
    · cases h
    · next d parsed =>
      split at h
      · cases h
      · next w' s₂ written =>
        obtain rfl := Except.ok.inj h
        obtain ⟨rfl, live⟩ := s₁.live_writeAt name id' written
        -- What is published afterwards does not change which document is live.
        exact ⟨d, parsed, ((sameDocuments_settle s₂ name policy).document?_eq name _).trans live⟩

theorem live_apply {defaultIndex : Option String} {a : Action} {payload : Bytes}
    (sent : a.source = some payload) {index : String} {v : Version}
    (h : Receipt.ofItem? (s.apply defaultIndex a).1 = some ⟨index, id, v, true⟩) :
    ∃ d, parseSource payload = .ok d ∧
      (s.apply defaultIndex a).2.document? index id = some ⟨v, d⟩ := by
  unfold apply at h ⊢
  split at h
  · rw [ofItem?_failure] at h
    cases h
  · next name _ =>
    split at h
    · rw [ofItem?_failure] at h
      cases h
    · next id' s₁ _ =>
      split at h
      · next w s₂ applied =>
        rw [ofItem?_success] at h
        injection h with h
        injection h with sameIndex sameId sameVersion kept
        subst sameIndex sameId sameVersion
        unfold applyAt at applied
        split at applied
        · next delete =>
          cases hk : a.kind with
          | delete => rw [hk] at kept; cases kept
          | create | index => rw [hk] at delete; cases delete
        · simp only [sent] at applied
          split at applied
          · cases congrArg Prod.fst applied
          · next d parsed =>
            obtain ⟨rfl, live⟩ := s₁.live_writeAt name id' applied
            exact ⟨d, parsed, live⟩
      · rw [ofItem?_failure] at h
        cases h

end Put

/-! ## Documents that were accepted -/

/-- An operation answers that it has put a document under a version: a write that is acknowledged,
or a bulk request with an item that tells so, if no later item tells of the same document. -/
inductive Accepts (s : Store) (index id : String) (payload : Bytes) (v : Version) :
    Operation → Prop
  | write {id' : Option String} {kind : Action.Kind} {required : Option Version}
      {policy : RefreshPolicy} {result : WriteResult}
      (acknowledged : (s.write index id' kind required payload policy).1 = .ok ⟨id, v, result⟩) :
      Accepts s index id payload v (.write index id' kind required payload policy)
  | item {defaultIndex : Option String} {before after : List Action} {a : Action}
      {policy : RefreshPolicy} {items others : List Wire.Item} {item : Wire.Item}
      (sent : a.source = some payload)
      (answered : (s.bulk defaultIndex (before ++ a :: after) policy).1 =
        .ok (.ofItems 0 (items ++ item :: others)))
      (here : items.length = before.length)
      (told : Receipt.ofItem? item = some ⟨index, id, v, true⟩)
      (last : ∀ r ∈ others.filterMap Receipt.ofItem?, r.concerns index id = false) :
      Accepts s index id payload v (.bulk defaultIndex (before ++ a :: after) policy)

variable {s : Store} {index id : String}

/-- What was accepted is there. -/
theorem Accepts.live {payload : Bytes} {v : Version} {o : Operation}
    (h : s.Accepts index id payload v o) :
    ∃ d, parseSource payload = .ok d ∧ (s.execute o).2.document? index id = some ⟨v, d⟩ := by
  cases h with
  | write acknowledged => exact s.live_write index acknowledged
  | @item defaultIndex before after a policy items others item sent answered here told last =>
    have few : (before ++ a :: after).length ≤ s.config.maxActions := by
      by_contra many
      rw [bulk, if_pos (by omega)] at answered
      cases answered
    have whole := bulk_of_few s defaultIndex few policy
    rw [whole] at answered
    have items_eq : (s.applyAll defaultIndex (before ++ a :: after)).1 = items ++ item :: others :=
      congrArg Wire.BulkReply.items (Except.ok.inj answered)
    rw [applyAll_append, applyAll] at items_eq
    obtain ⟨-, rest⟩ := List.append_inj items_eq (by rw [length_applyAll, here])
    obtain ⟨rfl, rfl⟩ := List.cons.inj rest
    obtain ⟨d, parsed, live⟩ := (s.applyAll defaultIndex before).2.live_apply id sent told
    have kept := (reaches_applyAll ((s.applyAll defaultIndex before).2.apply defaultIndex a).2
      defaultIndex after).evolves.untouched last
    have settled (s : Store) (names : List String) :
        (names.foldl (fun s name => s.settle name policy) s).document? index id =
          s.document? index id :=
      (reaches_settleAll s policy names).evolves.same index id rfl
    refine ⟨d, parsed, ?_⟩
    simp only [execute, whole, settled, applyAll_append, applyAll]
    rw [kept, live]

/-- A live document stays until an operation succeeds at it. -/
theorem live_executeAll {d : Document} (live : s.document? index id = some d)
    {os : List Operation} (untouched : ∀ r ∈ (s.executeAll os).1, r.concerns index id = false) :
    (s.executeAll os).2.document? index id = some d := by
  rw [(s.reaches_executeAll os).evolves.untouched untouched, live]

/-- From the next publication on searches see a live document too. -/
theorem published_executeAll (clean : s.Clean) {d : Document}
    (live : s.document? index id = some d) {os : List Operation}
    (untouched : ∀ r ∈ (s.executeAll os).1, r.concerns index id = false)
    (refreshed : Operation.refresh index ∈ os) :
    ((s.executeAll os).2.indexOrEmpty index).published.find? id = some d := by
  obtain ⟨earlier, later, rfl⟩ := List.append_of_mem refreshed
  simp only [executeAll_append, executeAll, execute, List.nil_append, List.forall_mem_append,
    refresh_eq] at untouched ⊢
  have live := live_executeAll live untouched.1
  have clean := (s.reaches_executeAll earlier).clean clean
  refine (reaches_executeAll _ later).published ?_ ?_ untouched.2
  · rw [(sameDocuments_publish _ index).document?_eq, live]
  · rw [clean.published]
    exact live

end Store

end VersionedStore
