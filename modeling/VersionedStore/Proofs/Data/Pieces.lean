import Mathlib.Data.List.Basic
import VersionedStore.Data.Pieces

/-!
# Pieces of lists that were put together

A list without the separator is one piece, and a list that was put together from such pieces
is cut into them again. No piece has the separator in it.

## Main results

* `pieces_append_cons` — the pieces before a separator come first, and then those behind it
* `notMem_of_mem_pieces`, `length_pieces` — what the pieces are, and how many
* `pieces_joined` — cutting undoes joining
* `cut?_append`, `cut?_eq_none` — cutting at the first separator
-/

namespace VersionedStore

variable {α : Type} [DecidableEq α] {separator : α} {piece rest : List α}

theorem pieces_of_notMem (h : separator ∉ piece) : pieces separator piece = [piece] := by
  induction piece with
  | nil => rfl
  | cons a piece ih =>
    rw [List.mem_cons, not_or] at h
    rw [pieces, if_neg (Ne.symm h.1), ih h.2]

/-- The pieces before a separator come first, and then those behind it. -/
theorem pieces_append_cons (xs : List α) :
    pieces separator (xs ++ separator :: rest) = pieces separator xs ++ pieces separator rest := by
  induction xs with
  | nil => rw [List.nil_append, pieces.eq_2, if_pos rfl, pieces.eq_1, List.singleton_append]
  | cons a xs ih =>
    rw [List.cons_append, pieces, pieces, ih]
    split
    · rfl
    · cases first : pieces separator xs with
      | nil => exact absurd first (pieces_ne_nil separator xs)
      | cons piece more => rfl

/-- The piece before a separator comes first. -/
theorem pieces_append (h : separator ∉ piece) :
    pieces separator (piece ++ separator :: rest) = piece :: pieces separator rest := by
  rw [pieces_append_cons, pieces_of_notMem h, List.singleton_append]

theorem length_pieces (xs : List α) :
    (pieces separator xs).length = xs.count separator + 1 := by
  induction xs with
  | nil => rfl
  | cons a xs ih =>
    rw [pieces]
    split
    · next h => rw [List.length_cons, ih, h, List.count_cons_self]
    · next h =>
      rw [List.count_cons_of_ne h, ← ih]
      cases first : pieces separator xs with
      | nil => exact absurd first (pieces_ne_nil separator xs)
      | cons piece more => rfl

/-- The separator is in no piece. -/
theorem notMem_of_mem_pieces {xs : List α} (h : piece ∈ pieces separator xs) :
    separator ∉ piece := by
  induction xs generalizing piece with
  | nil => simp_all [pieces]
  | cons a xs ih =>
    rw [pieces] at h
    split at h
    · obtain rfl | h := List.mem_cons.1 h
      · exact List.not_mem_nil
      · exact ih h
    · next apart =>
      cases first : pieces separator xs with
      | nil => exact absurd first (pieces_ne_nil separator xs)
      | cons p more =>
        rw [first] at ih
        simp only [first] at h
        obtain rfl | h := List.mem_cons.1 h
        · rw [List.mem_cons, not_or]
          exact ⟨Ne.symm apart, ih List.mem_cons_self⟩
        · exact ih (List.mem_cons_of_mem _ h)

/-- Cutting undoes joining, if there is a piece and the separator is in none of them. -/
theorem pieces_joined {ps : List (List α)} (hne : ps ≠ []) (h : ∀ p ∈ ps, separator ∉ p) :
    pieces separator (joined separator ps) = ps := by
  induction ps with
  | nil => exact absurd rfl hne
  | cons p ps ih =>
    have first := h p List.mem_cons_self
    cases ps with
    | nil => exact pieces_of_notMem first
    | cons q ps =>
      -- The first piece ends at the separator that was put behind it.
      rw [joined.eq_3 _ _ _ (by simp), pieces_append first,
        ih (by simp) fun p' hp' => h p' (List.mem_cons_of_mem _ hp')]

/-- A list is cut at its first separator. -/
theorem cut?_append (h : separator ∉ piece) :
    cut? separator (piece ++ separator :: rest) = some (piece, rest) := by
  induction piece with
  | nil => rw [List.nil_append, cut?, if_pos rfl]
  | cons a piece ih =>
    rw [List.mem_cons, not_or] at h
    rw [List.cons_append, cut?, if_neg (Ne.symm h.1), ih h.2]
    rfl

theorem cut?_eq_none (h : separator ∉ piece) : cut? separator piece = none := by
  induction piece with
  | nil => rfl
  | cons a piece ih =>
    rw [List.mem_cons, not_or] at h
    rw [cut?, if_neg (Ne.symm h.1), ih h.2]
    rfl

end VersionedStore
