import VersionedStore.Data.Table

/-!
# Looking up in tables

What a table holds after an insertion or a removal, and what becomes of its entries when all
values are mapped.

## Main results

* `Table.find?_insert`, `Table.find?_erase` — only the one key is touched
* `Entries.map_insert`, `Entries.map_erase`, `Entries.find?_map` — the operations on mapped
  entries
* `Table.mem_toList_iff`, `Table.find?_filter` — the entries of a table, and those that are kept
* `Table.ext_find?` — a table is told by what is found in it
-/

namespace VersionedStore

namespace Entries

variable {α : Type}

theorem find?_insert (j k : String) (v : α) (es : Entries α) :
    find? j (insert k v es) = if j = k then some v else find? j es := by
  induction es with
  | nil => simp [insert, find?, eq_comm]
  | cons e es ih =>
    unfold insert
    split
    · simp [find?, eq_comm]
    · split
      · next hk =>
        subst hk
        by_cases hj : j = e.1
        · simp [find?, hj]
        · simp [find?, hj, Ne.symm hj]
      · next hk =>
        simp only [find?, ih]
        by_cases he : e.1 = j
        · subst he
          simp [Ne.symm hk]
        · simp [he]

theorem length_insert {k : String} {v : α} {es : Entries α} (h : find? k es = none) :
    (insert k v es).length = es.length + 1 := by
  induction es with
  | nil => rfl
  | cons e es ih =>
    rw [find?] at h
    split at h
    · cases h
    · next other =>
      unfold insert
      rw [if_neg (Ne.symm other)]
      split
      · rfl
      · rw [List.length_cons, ih h, List.length_cons]

theorem find?_erase (j k : String) (es : Entries α) :
    find? j (erase k es) = if j = k then none else find? j es := by
  induction es with
  | nil => simp [erase, find?]
  | cons e es ih =>
    simp only [erase, List.filter_cons] at ih ⊢
    by_cases hj : j = k
    · subst hj
      by_cases he : e.1 = j <;> simpa [he, find?] using ih
    · by_cases he : e.1 = k
      · simp [he, ih, hj, find?, Ne.symm hj]
      · simp [he, ih, hj, find?]

/-! ### Values under a map -/

variable {β : Type} (f : α → β)

theorem map_insert (k : String) (v : α) (es : Entries α) :
    (insert k v es).map (fun e => (e.1, f e.2)) =
      insert k (f v) (es.map fun e => (e.1, f e.2)) := by
  induction es with
  | nil => rfl
  | cons e es ih =>
    rw [List.map_cons, insert, insert]
    split
    · rfl
    · split
      · rfl
      · rw [List.map_cons, ih]

theorem map_erase (k : String) (es : Entries α) :
    (erase k es).map (fun e => (e.1, f e.2)) = erase k (es.map fun e => (e.1, f e.2)) := by
  rw [erase, erase, List.filter_map]
  rfl

theorem find?_map (k : String) (es : Entries α) :
    find? k (es.map fun e => (e.1, f e.2)) = (find? k es).map f := by
  induction es with
  | nil => rfl
  | cons e es ih =>
    rw [List.map_cons, find?, find?, ih]
    split <;> rfl

end Entries

namespace Table

variable {α : Type}

@[simp] theorem find?_empty (k : String) : (empty : Table α).find? k = none := rfl

@[simp] theorem find?_insert (t : Table α) (j k : String) (v : α) :
    (t.insert k v).find? j = if j = k then some v else t.find? j :=
  Entries.find?_insert j k v t.entries

@[simp] theorem find?_erase (t : Table α) (j k : String) :
    (t.erase k).find? j = if j = k then none else t.find? j :=
  Entries.find?_erase j k t.entries

/-- A new entry is one more. -/
theorem size_insert {t : Table α} {k : String} {v : α} (h : t.find? k = none) :
    (t.insert k v).size = t.size + 1 := Entries.length_insert h

/-- The entries of a table are what is found in it. -/
theorem mem_toList_iff {t : Table α} {k : String} {v : α} :
    (k, v) ∈ t.toList ↔ t.find? k = some v := by
  obtain ⟨es, ascending⟩ := t
  simp only [toList, find?]
  induction es with
  | nil => simp [Entries.find?]
  | cons e es ih =>
    obtain ⟨first, rest⟩ := List.pairwise_cons.1 ascending
    rw [List.mem_cons, ih rest, Entries.find?]
    split
    · next here =>
      have later : Entries.find? k es ≠ some v := fun h =>
        absurd (first (k, v) ((ih rest).2 h)) (by rw [here]; exact String.lt_irrefl k)
      rw [or_iff_left later, ← here, Prod.ext_iff]
      simp [eq_comm]
    · next other =>
      rw [or_iff_right]
      rintro rfl
      exact other rfl

theorem find?_filter (t : Table α) (p : α → Bool) (k : String) :
    (t.filter p).find? k = (t.find? k).filter p := by
  ext v
  rw [Option.filter_eq_some_iff, ← mem_toList_iff, ← mem_toList_iff, filter, toList,
    List.mem_filter]
  rfl

/-- A table is told by what is found in it. -/
theorem ext_find? {t u : Table α} (h : ∀ k, t.find? k = u.find? k) : t = u := by
  have nodup (t : Table α) : t.entries.Nodup :=
    t.ascending.imp fun less same => String.ne_of_lt less (congrArg Prod.fst same)
  have perm : t.entries.Perm u.entries := (List.perm_ext_iff_of_nodup (nodup t) (nodup u)).2
    fun e => by
      rw [← toList, ← toList, mem_toList_iff, mem_toList_iff, h]
  have same : t.entries = u.entries := perm.eq_of_pairwise
    (fun _ _ _ _ less more => (String.lt_asymm less more).elim) t.ascending u.ascending
  cases t
  cases u
  cases same
  rfl

/-- To put an entry where it is changes nothing. -/
theorem insert_of_find? {t : Table α} {k : String} {v : α} (h : t.find? k = some v) :
    t.insert k v = t := by
  refine ext_find? fun j => ?_
  rw [find?_insert]
  split
  · next same => rw [same, h]
  · rfl

/-- To remove what is not there changes nothing. -/
theorem erase_of_find? {t : Table α} {k : String} (h : t.find? k = none) : t.erase k = t := by
  refine ext_find? fun j => ?_
  rw [find?_erase]
  split
  · next same => rw [same, h]
  · rfl

/-- To keep all entries changes nothing. -/
theorem filter_of_forall {t : Table α} {p : α → Bool}
    (h : ∀ k v, t.find? k = some v → p v = true) : t.filter p = t := by
  refine ext_find? fun j => ?_
  rw [find?_filter]
  cases found : t.find? j with
  | none => rfl
  | some v => rw [Option.filter_some, if_pos (h j v found)]

end Table

end VersionedStore
