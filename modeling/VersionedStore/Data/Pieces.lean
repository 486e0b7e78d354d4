/-!
# Cutting lists

Lines of a body, segments of a path, parameters of a query and the parts of a dotted name
are the pieces between the occurrences of a separator.

## Main definitions

* `pieces` — the pieces of a list
* `joined` — pieces with a separator between them
* `cut?` — what is before and after the first separator
-/

namespace VersionedStore

variable {α : Type} [DecidableEq α]

/-- The pieces between the occurrences of `separator`, in order. There is one piece more
than there are separators, so the empty list has one empty piece. -/
def pieces (separator : α) : List α → List (List α)
  | [] => [[]]
  | a :: rest =>
    if a = separator then [] :: pieces separator rest
    else
      match pieces separator rest with
      | [] => [[a]]
      | piece :: more => (a :: piece) :: more

/-- The pieces with `separator` between them. -/
def joined (separator : α) : List (List α) → List α
  | [] => []
  | [piece] => piece
  | piece :: more => piece ++ separator :: joined separator more

/-- What is before and after the first `separator`, if there is one. -/
def cut? (separator : α) : List α → Option (List α × List α)
  | [] => none
  | a :: rest =>
    if a = separator then some ([], rest)
    else (cut? separator rest).map fun r => (a :: r.1, r.2)

theorem pieces_ne_nil (separator : α) (xs : List α) : pieces separator xs ≠ [] := by
  cases xs with
  | nil => simp [pieces]
  | cons a rest =>
    unfold pieces
    split
    · simp
    · split <;> simp

/-- Putting the pieces together again gives the list. -/
theorem joined_pieces (separator : α) (xs : List α) : joined separator (pieces separator xs) = xs := by
  induction xs with
  | nil => rfl
  | cons a rest ih =>
    unfold pieces
    split
    · rename_i h
      cases hp : pieces separator rest with
      | nil => exact absurd hp (pieces_ne_nil separator rest)
      | cons piece more => simp only [joined, List.nil_append]; rw [← hp, ih, h]
    · cases hp : pieces separator rest with
      | nil => exact absurd hp (pieces_ne_nil separator rest)
      | cons piece more =>
        rw [hp] at ih
        cases more with
        | nil => simp_all [joined]
        | cons next others => simp_all [joined]

end VersionedStore
