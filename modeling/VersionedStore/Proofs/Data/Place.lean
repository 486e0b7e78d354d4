import Mathlib.Data.List.Basic

/-!
# Lists changed at one place

Whoever makes a step in a group stands at a place of a list, and the step puts something else at
that place.

## Main results

* `getElem?_set_cases` — an element is the new one, or it was there before
* `split_of_getElem?` — what stands before the place and behind it stays
-/

namespace VersionedStore

variable {α : Type} {l : List α} {i j : Nat} {a b c : α}

/-- After a change at one place an element is the new one, or it was there before. -/
theorem getElem?_set_cases (h : l[i]? = some a) (h' : (l.set i b)[j]? = some c) :
    (j = i ∧ c = b) ∨ (j ≠ i ∧ l[j]? = some c) := by
  rw [List.getElem?_set] at h'
  split at h'
  · next here =>
    rw [if_pos (List.getElem?_eq_some_iff.1 h).1] at h'
    exact .inl ⟨here.symm, (Option.some.inj h').symm⟩
  · next elsewhere => exact .inr ⟨Ne.symm elsewhere, h'⟩

/-- What stands before a place and behind it stays when the place is changed. -/
theorem split_of_getElem? (h : l[i]? = some a) : ∃ before after, l = before ++ a :: after ∧
    before.length = i ∧ ∀ b, l.set i b = before ++ b :: after := by
  obtain ⟨lt, rfl⟩ := List.getElem?_eq_some_iff.1 h
  refine ⟨l.take i, l.drop (i + 1), ?_, ?_, fun b => ?_⟩
  · rw [List.getElem_cons_drop, List.take_append_drop]
  · exact List.length_take_of_le (Nat.le_of_lt lt)
  · rw [List.set_eq_take_append_cons_drop, if_pos lt]

end VersionedStore
