import VersionedStore.Data.Hexadecimal

/-!
# Names that the store makes up

Documents without an id and open cursors get names that the store makes up. Whatever makes them up,
all its names are different; nothing else is known of them. One supply of ids and one of handles
are given here, for a store that runs: their names are the hexadecimal numerals of consecutive
numbers from a large start, so they have one length for a long time and do not look like names that
a client picks.

## Main definitions

* `NameSupply` — names that are all different
* `Names` — how far the names of a supply are given
* `NameSupply.documents` — a supply of ids
* `NameSupply.cursors` — a supply of handles
-/

namespace VersionedStore

/-- A supply of names. -/
structure NameSupply where
  /-- The `n`-th name. -/
  name : Nat → String
  /-- No name is given twice. -/
  distinct : Function.Injective name

/-- The names of a supply, the first of which are given. -/
structure Names where
  supply : NameSupply
  /-- How many names are given. -/
  given : Nat

namespace Names

/-- No name is given yet. -/
def start (supply : NameSupply) : Names := ⟨supply, 0⟩

/-- The name that is given next. -/
def next (n : Names) : String := n.supply.name n.given

/-- The names after one more is given. -/
def rest (n : Names) : Names := { n with given := n.given + 1 }

end Names

/-! ### Numerals -/

namespace Hexadecimal

/-- The number of some digits, most significant first. -/
private def number (ds : List (Fin 16)) : Nat := ds.foldl (fun n d => n * 16 + d.val) 0

private theorem number_digits (n : Nat) : number (digits n) = n := by
  induction n using Nat.strongRecOn with
  | ind n ih =>
    rw [digits]
    split
    · exact Nat.zero_add n
    · have others := ih (n / 16) (by omega)
      rw [number] at others ⊢
      rw [List.foldl_append, others]
      exact Nat.div_add_mod' n 16

/-- A number is told by its digits. -/
theorem digits_injective : Function.Injective digits :=
  Function.LeftInverse.injective number_digits

theorem lower_injective : Function.Injective lower := by
  intro c d same
  have digit := congrArg (fun c => value? (octet c)) same
  simpa only [value?_lower, Option.some.injEq] using digit

theorem lower_ne_dash (d : Fin 16) : lower d ≠ '-' := by
  revert d
  decide

end Hexadecimal

/-! ### Two supplies -/

namespace Name

/-- The number of the first name. -/
def start : Nat := 0xa7c94e20b35d4f18962e000000000000

def digits (n : Nat) : List Char := (Hexadecimal.digits (start + n)).map Hexadecimal.lower

/-- The id of the `n`-th document that has been given none. -/
def document (n : Nat) : String := String.ofList (digits n)

/-- The digits of a name in groups of eight, four, four, four and the rest. -/
def grouped (ds : List Char) : List Char :=
  ds.take 8 ++ '-' :: (ds.drop 8).take 4 ++ '-' :: (ds.drop 12).take 4 ++
    '-' :: (ds.drop 16).take 4 ++ '-' :: ds.drop 20

/-- The handle of the `n`-th cursor. -/
def cursor (n : Nat) : String := String.ofList (grouped (digits n))

private theorem dash_notMem_digits (n : Nat) : '-' ∉ digits n := by
  intro dash
  obtain ⟨d, -, same⟩ := List.mem_map.1 dash
  exact Hexadecimal.lower_ne_dash d same

private theorem digits_injective : Function.Injective digits := by
  intro m n same
  have numbers := Hexadecimal.digits_injective
    ((List.map_inj_right fun _ _ equal => Hexadecimal.lower_injective equal).1 same)
  exact Nat.add_left_cancel numbers

/-- Without the dashes the groups are the digits. -/
private theorem filter_grouped {ds : List Char} (h : '-' ∉ ds) :
    (grouped ds).filter (· ≠ '-') = ds := by
  have pieces : ds = ds.take 8 ++ ((ds.drop 8).take 4 ++ ((ds.drop 12).take 4 ++
      ((ds.drop 16).take 4 ++ ds.drop 20))) := by
    have piece (i : Nat) : (ds.drop i).take 4 ++ ds.drop (i + 4) = ds.drop i := by
      rw [← List.drop_drop, List.take_append_drop]
    rw [piece 16, piece 12, piece 8, List.take_append_drop]
  have plain : ds.filter (· ≠ '-') = ds :=
    List.filter_eq_self.2 fun c hc => decide_eq_true fun dash => h (dash ▸ hc)
  refine Eq.trans ?_ plain
  conv => rhs; rw [pieces]
  simp [grouped, List.filter_append]

theorem document_injective : Function.Injective document :=
  fun _ _ same => digits_injective (String.ofList_injective same)

/-- A cursor is told by its handle. -/
theorem cursor_injective : Function.Injective cursor := by
  intro m n same
  have groups := congrArg (List.filter (· ≠ '-')) (String.ofList_injective same)
  rw [filter_grouped (dash_notMem_digits m), filter_grouped (dash_notMem_digits n)] at groups
  exact digits_injective groups

end Name

namespace NameSupply

/-- Ids of hexadecimal digits. -/
def documents : NameSupply := ⟨Name.document, Name.document_injective⟩

/-- Handles of hexadecimal digits in groups. -/
def cursors : NameSupply := ⟨Name.cursor, Name.cursor_injective⟩

end NameSupply

end VersionedStore
