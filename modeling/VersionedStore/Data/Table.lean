/-!
# Tables ordered by key

Documents of an index, indices of a store, open scrolls, members of an object: all are
finite maps from strings whose order of traversal is observable, and it is always the
order of the keys. A table keeps its entries in strictly ascending key order, so two
tables with the same entries are equal.

## Main definitions

* `Entries.insert`, `Entries.erase`, `Entries.find?` — the operations on bare lists of entries
* `Table` — a list of entries with a proof that the keys ascend
* `Table.find?`, `Table.insert`, `Table.erase`, `Table.toList`

## Main statements

* `Entries.pairwise_insert`, `Entries.pairwise_erase` — the operations keep the order
-/

namespace VersionedStore

/-- A list of keyed entries. -/
abbrev Entries (α : Type) := List (String × α)

namespace Entries

variable {α β : Type}

/-- Every key is below all later ones. -/
def Ascending (es : Entries α) : Prop := es.Pairwise fun a b => a.1 < b.1

/-- Puts `v` at `k`, in place of an entry of that key if there is one. -/
def insert (k : String) (v : α) : Entries α → Entries α
  | [] => [(k, v)]
  | e :: es =>
    if k < e.1 then (k, v) :: e :: es
    else if k = e.1 then (k, v) :: es
    else e :: insert k v es

/-- Removes the entry at `k`. -/
def erase (k : String) (es : Entries α) : Entries α := es.filter fun e => e.1 != k

/-- The value at `k`. -/
def find? (k : String) : Entries α → Option α
  | [] => none
  | e :: es => if e.1 = k then some e.2 else find? k es

theorem mem_insert {k : String} {v : α} {es : Entries α} {e : String × α}
    (h : e ∈ insert k v es) : e = (k, v) ∨ e ∈ es := by
  induction es with
  | nil => simp_all [insert]
  | cons a es ih =>
    unfold insert at h
    split at h
    · simpa using h
    · split at h
      · simp only [List.mem_cons] at h ⊢
        exact h.imp_right .inr
      · simp only [List.mem_cons] at h ⊢
        rcases h with h | h
        · exact .inr (.inl h)
        · exact (ih h).imp_right .inr

theorem lt_of_not_lt_of_ne {a b : String} (h : ¬ a < b) (hne : a ≠ b) : b < a := by
  rcases Std.lt_trichotomy a b with h' | h' | h'
  · exact absurd h' h
  · exact absurd h' hne
  · exact h'

theorem pairwise_insert {es : Entries α} (h : es.Ascending) (k : String) (v : α) :
    (insert k v es).Ascending := by
  induction es with
  | nil => simp [insert, Ascending]
  | cons e es ih =>
    have hes : Ascending es := (List.pairwise_cons.1 h).2
    have he : ∀ x ∈ es, e.1 < x.1 := (List.pairwise_cons.1 h).1
    unfold insert
    split
    · rename_i hk
      refine List.pairwise_cons.2 ⟨fun x hx => ?_, h⟩
      rcases List.mem_cons.1 hx with rfl | hx
      · exact hk
      · exact String.lt_trans hk (he x hx)
    · rename_i hk
      split
      · rename_i heq
        exact List.pairwise_cons.2 ⟨fun x hx => heq ▸ he x hx, hes⟩
      · rename_i hne
        refine List.pairwise_cons.2 ⟨fun x hx => ?_, ih hes⟩
        rcases mem_insert hx with rfl | hx
        · exact lt_of_not_lt_of_ne hk hne
        · exact he x hx

theorem pairwise_erase {es : Entries α} (h : es.Ascending) (k : String) :
    (erase k es).Ascending := h.filter _

end Entries

/-- A finite map from strings, traversed in ascending order of the keys. -/
structure Table (α : Type) where
  /-- The entries in order. -/
  entries : Entries α
  /-- Every key is below all later ones. -/
  ascending : entries.Ascending := by simp [Entries.Ascending]

namespace Table

variable {α β : Type}

/-- The table without entries. -/
def empty : Table α := ⟨[], List.Pairwise.nil⟩

instance : Inhabited (Table α) := ⟨empty⟩

instance [DecidableEq α] : DecidableEq (Table α) := fun s t =>
  if h : s.entries = t.entries then isTrue (by cases s; cases t; simp_all)
  else isFalse fun e => h (e ▸ rfl)

/-- The value at a key. -/
def find? (t : Table α) (k : String) : Option α := Entries.find? k t.entries

/-- The table with `v` at `k`. -/
def insert (t : Table α) (k : String) (v : α) : Table α :=
  ⟨Entries.insert k v t.entries, Entries.pairwise_insert t.ascending k v⟩

/-- The table without an entry at `k`. -/
def erase (t : Table α) (k : String) : Table α :=
  ⟨Entries.erase k t.entries, Entries.pairwise_erase t.ascending k⟩

/-- The table of the entries that satisfy a test on the values. -/
def filter (p : α → Bool) (t : Table α) : Table α :=
  ⟨List.filter (fun e => p e.2) t.entries, t.ascending.filter _⟩

/-- Whether there is an entry at `k`. -/
def contains (t : Table α) (k : String) : Bool := (t.find? k).isSome

/-- The entries in ascending order of the keys. -/
def toList (t : Table α) : List (String × α) := t.entries

/-- The number of entries. -/
def size (t : Table α) : Nat := t.entries.length

/-- The table of a list of entries; of equal keys the last one stays. -/
def ofList (es : List (String × α)) : Table α := es.foldl (fun t e => t.insert e.1 e.2) empty

end Table

end VersionedStore
