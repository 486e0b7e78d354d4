import Mathlib.Data.List.Nodup
import VersionedStore.Json.Record
import VersionedStore.Proofs.Json.Printing

/-!
# Reading records

A message is written as an object whose members are fields of its record, in their order and
some of them left out. The record of such an object has exactly these members, so a field is
read off what was written under its name.

## Main results

* `Reader.string_ofString`, `Reader.word64_ofNat`, `Reader.word32_ofNat`, `Reader.word16_ofNat` —
  the parts of messages are read back
* `Record.ofText?_ofMembers` — the record of a written object
* `Record.optional_of_lookup`, `Record.required_of_lookup` — a field is read off its member
* `Record.tagged?_ofMembers` — the only member of a written object
-/

namespace VersionedStore.Json

/-! ## Parts of messages -/

namespace Reader

variable (level : Nat)

@[simp] theorem string_ofString (s : String) : string level (.ofString s) = some s :=
  Symbol.meaning?_ofString s

@[simp] theorem bool_bool (b : Bool) : bool level (.bool b) = some b := rfl

private theorem below_ofNat {bound n : Nat} (h : n < bound) (hb : n < Nat.pow 2 64) :
    below bound level (.ofNat n) = some n := by
  have back : (UInt64.ofNat n).toNat = n := UInt64.toNat_ofNat_of_lt' hb
  have number := Number.ofLiteral?_digits (UInt64.ofNat n)
  rw [back] at number
  rw [Text.ofNat, below, number]
  simp only [back, if_pos h]

@[simp] theorem word64_ofNat (n : UInt64) : word64 level (.ofNat n.toNat) = some n := by
  rw [word64, below_ofNat level n.toNat_lt n.toNat_lt, Option.map_some, UInt64.ofNat_toNat]

@[simp] theorem word16_ofNat (n : UInt16) : word16 level (.ofNat n.toNat) = some n := by
  have small : n.toNat < Nat.pow 2 64 := Nat.lt_trans n.toNat_lt (by decide)
  rw [word16, below_ofNat level n.toNat_lt small, Option.map_some, UInt16.ofNat_toNat]

@[simp] theorem word32_ofNat (n : UInt32) : word32 level (.ofNat n.toNat) = some n := by
  have small : n.toNat < Nat.pow 2 64 := Nat.lt_trans n.toNat_lt (by decide)
  rw [word32, below_ofNat level n.toNat_lt small, Option.map_some, UInt32.ofNat_toNat]

variable {α : Type}

/-- Only a null is read as nothing. -/
theorem nullable_of_ne_null {read : Reader α} {t : Text} (h : t ≠ .null) :
    nullable read level t = (read level t).map some := by
  cases t with
  | null => exact absurd rfl h
  | _ => rfl

@[simp] theorem nullable_ofString (read : Reader α) (s : String) :
    nullable read level (.ofString s) = (read level (.ofString s)).map some := rfl

@[simp] theorem nullable_ofNat (read : Reader α) (n : Nat) :
    nullable read level (.ofNat n) = (read level (.ofNat n)).map some := rfl

@[simp] theorem nullable_ofMembers (read : Reader α) (ms : List (String × Text)) :
    nullable read level (.ofMembers ms) = (read level (.ofMembers ms)).map some := rfl

/-- An array is read element by element. -/
theorem list_array_map {β : Type} {read : Reader β} {write : α → Text} (f : α → β) (as : List α)
    (h : ∀ a ∈ as, read level (write a) = some (f a)) :
    list read (level + 1) (.array (as.map write)) = some (as.map f) := by
  rw [list]
  induction as with
  | nil => rfl
  | cons a as ih =>
    have others := ih fun b hb => h b (List.mem_cons_of_mem _ hb)
    rw [List.map_cons, List.mapM_cons, h a List.mem_cons_self]
    simp only [Option.bind_eq_bind, Option.bind_some, others]
    rfl

/-- An array is not read if one of its elements is not. -/
theorem list_array_of_none {read : Reader α} {β : Type} {write : β → Text} {a : β} {as : List β}
    (among : a ∈ as) (unread : read level (write a) = none) :
    list read (level + 1) (.array (as.map write)) = none := by
  rw [list]
  induction as with
  | nil => cases among
  | cons b as ih =>
    rw [List.map_cons, List.mapM_cons]
    obtain rfl | later := List.mem_cons.1 among
    · rw [unread]
      rfl
    · rw [ih later]
      cases read level (write b) <;> rfl

/-- An array of written elements is read as they were written. -/
theorem list_array {read : Reader α} {write : α → Text} (as : List α)
    (h : ∀ a ∈ as, read level (write a) = some a) :
    list read (level + 1) (.array (as.map write)) = some as := by
  rw [list_array_map level id as h, List.map_id]

end Reader

/-! ## Records -/

namespace Record

variable {α : Type} {fields : List Field} {level : Nat}

private theorem ofMembers?_written (found : List (String × Text)) {ms : List (String × Text)}
    (known : ∀ m ∈ ms, m.1 ∈ fields.map Field.name)
    (distinct : ((found ++ ms).map Prod.fst).Nodup) :
    ofMembers? fields found (ms.map fun m => (Symbol.ofString m.1, m.2)) = some (found ++ ms) := by
  induction ms generalizing found with
  | nil => simp [ofMembers?]
  | cons m ms ih =>
    have isField : fields.any (·.name == m.1) = true := by
      obtain ⟨f, hf, hname⟩ := List.mem_map.1 (known m List.mem_cons_self)
      exact List.any_eq_true.2 ⟨f, hf, beq_iff_eq.2 hname⟩
    have isNew : (found.lookup m.1).isSome = false := by
      rw [Option.isSome_eq_false_iff, Option.isNone_iff_eq_none, List.lookup_eq_none_iff]
      intro p hp
      rw [bne_iff_ne]
      rintro hpm
      rw [List.map_append, List.map_cons, List.nodup_append] at distinct
      exact distinct.2.2 p.1 (List.mem_map_of_mem hp) m.1 List.mem_cons_self hpm.symm
    rw [List.map_cons, ofMembers?, Symbol.meaning?_ofString]
    simp only [isField, isNew, ↓reduceIte, Bool.false_eq_true]
    have others := ih (found ++ [m]) (fun m' hm' => known m' (List.mem_cons_of_mem _ hm'))
      (show ((found ++ [m] ++ ms).map Prod.fst).Nodup by simpa using distinct)
    rw [others, List.append_assoc, List.singleton_append]

/-- The record of an object that was written with some of its fields, in any order. -/
theorem ofText?_ofMembers_of_nodup {ms : List (String × Text)}
    (known : ∀ m ∈ ms, m.1 ∈ fields.map Field.name) (distinct : (ms.map Prod.fst).Nodup) :
    ofText? fields (level + 1) (.ofMembers ms) = some ⟨level, ms⟩ := by
  rw [Text.ofMembers, ofText?, ofMembers?_written [] known distinct]
  rfl

/-- The record of an object that was written with some of its fields, in their order. -/
theorem ofText?_ofMembers {ms : List (String × Text)}
    (h : (ms.map Prod.fst).Sublist (fields.map Field.name))
    (distinct : (fields.map Field.name).Nodup) :
    ofText? fields (level + 1) (.ofMembers ms) = some ⟨level, ms⟩ :=
  ofText?_ofMembers_of_nodup (fun _ hm => h.subset (List.mem_map_of_mem hm)) (h.nodup distinct)

theorem sublist_given (name : String) (write : α → Text) (a : Option α) :
    ((given name write a).map Prod.fst).Sublist [name] := by
  cases a with
  | none => exact List.nil_sublist _
  | some a => exact List.Sublist.refl _

theorem wellFormed_given {write : α → Text} (name : String) (a : Option α)
    (h : ∀ x, (write x).WellFormed) : ∀ m ∈ given name write a, m.2.WellFormed := by
  cases a with
  | none => simp [given]
  | some x => simpa [given] using h x

@[simp] theorem lookup_given (key name : String) (write : α → Text) (a : Option α) :
    (given name write a).lookup key = if key = name then a.map write else none := by
  cases a with
  | none => simp [given]
  | some a =>
    rw [given, List.lookup_cons, List.lookup_nil, Option.map_some]
    by_cases h : key = name
    · rw [if_pos h, beq_iff_eq.2 h]
    · rw [if_neg h, beq_eq_false_iff_ne.2 h]

/-- A field that may be left out is read off its member. -/
theorem optional_of_lookup {ms : List (String × Text)} {name : String} {read : Reader α}
    (a : Option α) (write : α → Text) (hl : ms.lookup name = a.map write)
    (hr : ∀ x, a = some x → Reader.nullable read level (write x) = some (some x)) :
    optional ⟨level, ms⟩ name read = some a := by
  unfold optional
  cases a with
  | none => simp [hl]
  | some x =>
    simp only [hl, Option.map_some]
    exact hr x rfl

/-- A field that may be left out is read off its member, or is nothing. -/
theorem optional_eq_of_lookup {ms : List (String × Text)} {name : String} {read : Reader α}
    {β : Type} (b : Option β) (write : β → Text) (hl : ms.lookup name = b.map write) :
    optional ⟨level, ms⟩ name read =
      b.elim (some none) fun x => Reader.nullable read level (write x) := by
  unfold optional
  cases b <;> simp [hl]

/-- A field that must be given is read off its member. -/
theorem required_of_lookup {ms : List (String × Text)} {name : String} {t : Text}
    {read : Reader α} (hl : ms.lookup name = some t) :
    required ⟨level, ms⟩ name read = read level t := by
  unfold required
  simp only [hl]

/-- A field with a default that is given is read off its member. -/
theorem orDefault_of_lookup {ms : List (String × Text)} {name : String} {t : Text} {default : α}
    {read : Reader α} (hl : ms.lookup name = some t) :
    orDefault ⟨level, ms⟩ name default read = read level t := by
  unfold orDefault
  simp only [hl]

/-- The only member of a written object. -/
@[simp] theorem tagged?_ofMembers (read : (key : String) → Reader α) (key : String) (t : Text) :
    tagged? read (level + 1) (.ofMembers [(key, t)]) = read key level t := by
  rw [Text.ofMembers, List.map_cons, List.map_nil, tagged?, Symbol.meaning?_ofString]

end Record

end VersionedStore.Json
