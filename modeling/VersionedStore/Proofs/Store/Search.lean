import VersionedStore.Proofs.Data.Answer
import VersionedStore.Proofs.Data.Table
import VersionedStore.Proofs.Store.Evolution
import VersionedStore.Proofs.Wire.Searches

/-!
# What searches find

A query that is printed and read again is a query again. What a query selects from an index are
the published documents that it accepts, in ascending order of their ids.

## Main definitions

* `Index.Finds` — what a search of an index has to find

## Main results

* `Query.parse_reread` — the printed form of a valid query is a valid query
* `Index.finds_select` — an index selects what a search has to find
* `Store.get_cases`, `Store.search_cases` — what a reading and a search see
-/

namespace VersionedStore

open Json

/-! ## Queries that are read again -/

namespace Query

/-- Null counts as no query. -/
theorem parse_arrived (query : Option Value) :
    parse (Wire.arrived query) = parse (query.map Value.reread) := by
  cases query with
  | none => rfl
  | some v => cases v <;> rfl

private theorem isOk_termValue {v : Value} (h : ∃ x, termValue v = .ok x) :
    ∃ x, termValue v.reread = .ok x := by
  cases v with
  | object ms =>
    obtain ⟨x, hx⟩ := h
    rw [termValue] at hx
    have again := Value.member?_reread "value" (.object ms)
    rw [Value.reread, Value.member?, Value.member?] at again
    rw [Value.reread, termValue, again]
    split at hx
    · simp at hx
    · next w found =>
      rw [found]
      exact ⟨w.reread, rfl⟩
  | array vs => simp [termValue] at h
  | _ => exact ⟨_, rfl⟩

private theorem isOk_parseTerm {v : Value} (h : ∃ q, parseTerm v = .ok q) :
    ∃ q, parseTerm v.reread = .ok q := by
  obtain ⟨q, hq⟩ := h
  unfold parseTerm at hq
  split at hq
  · next field body =>
    obtain ⟨x, hx, -⟩ := map_eq_ok_iff.1 hq
    obtain ⟨y, hy⟩ := isOk_termValue ⟨x, hx⟩
    exact ⟨_, by simp only [Value.reread, Value.membersReread, parseTerm, hy]; rfl⟩
  · simp at hq
  · simp at hq

private theorem isOk_parseId {v : Value} (h : ∃ id, parseId v = .ok id) :
    ∃ id, parseId v.reread = .ok id := by
  cases v with
  | string s => exact ⟨s, rfl⟩
  | number n => exact ⟨_, rfl⟩
  | _ => simp [parseId] at h

private theorem isOk_mapM_parseId {vs : List Value} (h : ∃ ids, vs.mapM parseId = .ok ids) :
    ∃ ids, (vs.map Value.reread).mapM parseId = .ok ids := by
  induction vs with
  | nil => exact ⟨[], rfl⟩
  | cons v vs ih =>
    obtain ⟨ids, hids⟩ := h
    rw [List.mapM_cons, bind_eq_ok_iff] at hids
    obtain ⟨id, first, rest⟩ := hids
    obtain ⟨ids', others, -⟩ := bind_eq_ok_iff.1 rest
    obtain ⟨id₂, first⟩ := isOk_parseId ⟨id, first⟩
    obtain ⟨ids₂, others⟩ := ih ⟨ids', others⟩
    refine ⟨id₂ :: ids₂, ?_⟩
    rw [List.map_cons, List.mapM_cons, first, others]
    rfl

private theorem isOk_parseIds {v : Value} (h : ∃ q, parseIds v = .ok q) :
    ∃ q, parseIds v.reread = .ok q := by
  obtain ⟨q, hq⟩ := h
  unfold parseIds at hq ⊢
  rw [Value.member?_reread]
  split at hq
  · next vs found =>
    obtain ⟨ids, hids, -⟩ := map_eq_ok_iff.1 hq
    obtain ⟨ids', hids'⟩ := isOk_mapM_parseId ⟨ids, hids⟩
    rw [found, Option.map_some, Value.reread, Value.elementsReread_eq_map]
    simp only [hids']
    exact ⟨_, rfl⟩
  · simp at hq

private theorem isOk_parseClause {name : String} {v : Value}
    (h : ∃ q, parseClause name v = .ok q) : ∃ q, parseClause name v.reread = .ok q := by
  unfold parseClause at h ⊢
  split at h
  · exact ⟨_, rfl⟩
  · exact ⟨_, rfl⟩
  · exact isOk_parseTerm h
  · exact isOk_parseIds h
  · simp at h

/-- The printed form of a valid query is a valid query. -/
theorem parse_reread {query : Option Value} {q : Query} (h : parse query = .ok q) :
    ∃ q', parse (query.map Value.reread) = .ok q' := by
  unfold parse at h
  split at h
  · exact ⟨all, rfl⟩
  · exact ⟨all, rfl⟩
  · exact ⟨all, rfl⟩
  · exact isOk_parseClause ⟨q, h⟩
  · simp at h
  · simp at h

end Query

/-! ## What an index selects -/

namespace Index

/-- What a search of an index has to find: the published documents that the query accepts, each
once, in ascending order of their ids. -/
structure Finds (ix : Index) (q : Query) (found : List (String × Document)) : Prop where
  ascending : found.Pairwise fun a b => a.1 < b.1
  mem_iff : ∀ id d, (id, d) ∈ found ↔ ix.published.find? id = some d ∧ q.accepts id d.source

theorem finds_select (ix : Index) (q : Query) : ix.Finds q (ix.select q) where
  ascending := ix.published.ascending.filter _
  mem_iff id d := by rw [select, List.mem_filter, Table.mem_toList_iff]

/-- There is one list of what a search has to find. -/
theorem Finds.eq_select {ix : Index} {q : Query} {found : List (String × Document)}
    (h : ix.Finds q found) : found = ix.select q := by
  have nodup {found : List (String × Document)} (h : ix.Finds q found) : found.Nodup :=
    h.ascending.imp fun less same => String.ne_of_lt less (congrArg Prod.fst same)
  have selected := ix.finds_select q
  have perm : found.Perm (ix.select q) := (List.perm_ext_iff_of_nodup (nodup h) (nodup selected)).2
    fun e => (h.mem_iff e.1 e.2).trans (selected.mem_iff e.1 e.2).symm
  exact perm.eq_of_pairwise (fun _ _ _ _ less more => (String.lt_asymm less more).elim) h.ascending
    selected.ascending

end Index

/-! ## What reads see -/

namespace Store

variable (s : Store) (name : String)

theorem indexOrEmpty_of_index {s : Store} {name : String} {ix : Index}
    (here : s.index name = .ok ix) : s.indexOrEmpty name = ix := by
  unfold index at here
  unfold indexOrEmpty
  split at here
  · simp at here
  · next known => rw [known, ← Except.ok.inj here]; rfl

/-- A reading finds the live document; if there is none, it finds no index or no document. -/
theorem get_cases (id : String) :
    (s.document? name id = none ∧ (s.get name id = .error (.indexMissing name) ∨
        s.get name id = .ok ⟨name, id, false, none, none, none⟩)) ∨
      ∃ d, s.document? name id = some d ∧ s.get name id = .ok
        ⟨name, id, true, some d.version.sequence, some d.version.epoch, some d.source⟩ := by
  unfold get document? indexOrEmpty index
  cases s.indices.find? name with
  | none => exact .inl ⟨rfl, .inl rfl⟩
  | some ix =>
    simp only [Option.getD_some]
    cases found : ix.live.find? id with
    | none => exact .inl ⟨rfl, .inr (by simp [found, bind, Except.bind, pure, Except.pure])⟩
    | some d => exact .inr ⟨d, rfl, by simp [found, bind, Except.bind, pure, Except.pure]⟩

/-- A search finds no index, or the published documents that the query selects. -/
theorem search_cases (q : Query) (versions : Bool) :
    s.search name q versions = .error (.indexMissing name) ∨
      s.search name q versions =
        .ok (((s.indexOrEmpty name).select q).map (hit name versions)) := by
  unfold search indexOrEmpty index
  cases s.indices.find? name with
  | none => exact .inl rfl
  | some ix => exact .inr rfl

end Store

end VersionedStore
