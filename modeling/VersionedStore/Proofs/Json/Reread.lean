import Mathlib.Data.List.Forall2
import VersionedStore.Proofs.Json.Number
import VersionedStore.Proofs.Json.Record

/-!
# Reading a printed value again

A value that is printed and read again may lose the exact form of its floating point numbers, but
strings and whole numbers are read off the new value as they were read off the old one, and the
members of an object stay in their order.

## Main definitions

* `Text.Resembles` — strings and whole numbers are read alike off two texts
* `Value.MembersResemble`, `Record.FieldsResemble` — members and fields that resemble each other

## Main results

* `Value.resembles_of_ofText?` — a printed value resembles what it is read again as
* `Value.members_reread` — an object whose members are in order is read again member by member
* `Record.ofMembers?_resembling` — resembling members give fields that resemble each other
* `Record.FieldsResemble.required_string`, `Record.FieldsResemble.orDefault_word64` — and strings
  and whole numbers are read alike off these
-/

namespace VersionedStore

open Json

/-! ## Entries in order -/

namespace Entries

variable {α : Type}

/-- What is above all keys goes to the end. -/
theorem insert_of_forall_lt {k : String} {v : α} {es : Entries α} (h : ∀ e ∈ es, e.1 < k) :
    insert k v es = es ++ [(k, v)] := by
  induction es with
  | nil => rfl
  | cons e es ih =>
    have below := h e List.mem_cons_self
    have others := ih fun e' he' => h e' (List.mem_cons_of_mem _ he')
    rw [insert, if_neg (String.lt_asymm below), if_neg (String.ne_of_lt below).symm, others,
      List.cons_append]

end Entries

namespace Json

/-! ## Numbers -/

namespace Number

/-- Only literals without sign, point and exponent stand for numbers of the first kind. -/
theorem plain_of_unsigned {l : Literal} {n : UInt64} (h : ofLiteral? l = some (unsigned n)) :
    l.negative = false ∧ l.fraction = none ∧ l.exponent = none := by
  have notFloat : floatOf? l ≠ some (unsigned n) := by
    unfold floatOf?
    cases Binary64.ofDecimal? l.negative l.scientific.1 l.scientific.2 <;> simp
  unfold ofLiteral? at h
  cases whole : l.whole? with
  | none =>
    rw [whole] at h
    exact absurd h notFloat
  | some m =>
    simp only [whole] at h
    by_cases sign : l.negative = true
    · rw [if_pos sign] at h
      split at h
      · exact absurd h notFloat
      · simp at h
    · unfold Literal.whole? at whole
      split at whole
      · next hf he _ => exact ⟨Bool.eq_false_iff.2 sign, hf, he⟩
      · simp at whole

/-- Only numbers of the first kind are written so. -/
theorem unsigned_of_plain {m : Number} (sign : m.toLiteral.negative = false)
    (point : m.toLiteral.fraction = none) (exponent : m.toLiteral.exponent = none) :
    ∃ n, m = unsigned n := by
  cases m with
  | unsigned n => exact ⟨n, rfl⟩
  | negative n => simp [toLiteral] at sign
  | float x =>
    obtain shown | shown := shown_floatLiteral x
    · exact absurd point shown
    · exact absurd exponent shown

/-- A number that is read again is of the first kind only if it was before. -/
theorem unsigned_reread {m m' : Number} (h : ofLiteral? m.toLiteral = some m') (n : UInt64) :
    ofLiteral? m'.toLiteral = some (unsigned n) ↔ ofLiteral? m.toLiteral = some (unsigned n) := by
  constructor
  · intro again
    -- What is read at last has a plain literal, so the number before it was of the first kind too.
    obtain ⟨sign, point, exponent⟩ := plain_of_unsigned again
    obtain ⟨n', rfl⟩ := unsigned_of_plain sign point exponent
    rw [h, ← again]
    exact (ofLiteral?_digits n').symm
  · intro first
    obtain rfl := Option.some.inj (h.symm.trans first)
    exact ofLiteral?_digits n

end Number

/-- A whole number is read off a literal of the first kind. -/
theorem Reader.word64_eq_some {level : Nat} {l : Literal} {n : UInt64} :
    word64 level (.number l) = some n ↔ Number.ofLiteral? l = some (.unsigned n) := by
  rw [word64, below]
  cases Number.ofLiteral? l with
  | none => simp
  | some m =>
    cases m with
    | unsigned k => simp [if_pos k.toNat_lt]
    | negative _ => simp
    | float _ => simp

/-! ## Values -/

/-- Strings and whole numbers are read alike off two texts. -/
structure Text.Resembles (t t' : Text) : Prop where
  string : ∀ level, Reader.string level t' = Reader.string level t
  word64 : ∀ level, Reader.word64 level t' = Reader.word64 level t

namespace Value

/-- A printed value resembles what it is read again as. -/
theorem resembles_of_ofText? {level : Nat} {v v' : Value} (h : ofText? level v.toText = some v') :
    v.toText.Resembles v'.toText := by
  cases v with
  | null =>
    obtain rfl := Option.some.inj h
    exact ⟨fun _ => rfl, fun _ => rfl⟩
  | bool b =>
    obtain rfl := Option.some.inj h
    exact ⟨fun _ => rfl, fun _ => rfl⟩
  | number m =>
    rw [toText, ofText?, Option.map_eq_some_iff] at h
    obtain ⟨m', hm', rfl⟩ := h
    refine ⟨fun _ => rfl, fun level => Option.ext fun n => ?_⟩
    rw [toText, toText, Reader.word64_eq_some, Reader.word64_eq_some]
    exact Number.unsigned_reread hm' n
  | string s =>
    rw [toText, Text.ofString, ofText?, Symbol.meaning?_ofString] at h
    obtain rfl := Option.some.inj h
    exact ⟨fun _ => rfl, fun _ => rfl⟩
  | array vs =>
    cases level with
    | zero => simp [toText, ofText?] at h
    | succ level =>
      rw [toText, ofText?, Option.map_eq_some_iff] at h
      obtain ⟨vs', -, rfl⟩ := h
      exact ⟨fun _ => rfl, fun _ => rfl⟩
  | object ms =>
    cases level with
    | zero => simp [toText, ofText?] at h
    | succ level =>
      rw [toText, ofText?, Option.map_eq_some_iff] at h
      obtain ⟨ms', -, rfl⟩ := h
      exact ⟨fun _ => rfl, fun _ => rfl⟩

/-! ## Objects -/

/-- Members of the same keys, in the same order, with resembling values. -/
abbrev MembersResemble (ms ms' : List (String × Value)) : Prop :=
  List.Forall₂ (fun m m' => m'.1 = m.1 ∧ m.2.toText.Resembles m'.2.toText) ms ms'

private theorem members_reread_onto {level : Nat} {found es : Entries Value}
    {ms : List (String × Value)} (ascending : Entries.Ascending ms)
    (above : ∀ e ∈ found, ∀ m ∈ ms, e.1 < m.1)
    (h : ofMembers? level found (membersToText ms) = some es) :
    ∃ ms', es = found ++ ms' ∧ MembersResemble ms ms' := by
  induction ms generalizing found with
  | nil =>
    rw [membersToText, ofMembers?] at h
    exact ⟨[], by rw [← Option.some.inj h, List.append_nil], .nil⟩
  | cons m ms ih =>
    obtain ⟨k, v⟩ := m
    obtain ⟨first, rest⟩ := List.pairwise_cons.1 ascending
    rw [membersToText, ofMembers?, Symbol.meaning?_ofString] at h
    cases again : ofText? level v.toText with
    | none => simp [again] at h
    | some v' =>
      simp only [again] at h
      -- The keys ascend, so each member is put behind those that were read before it.
      rw [Entries.insert_of_forall_lt fun e he => above e he _ List.mem_cons_self] at h
      have above' : ∀ e ∈ found ++ [(k, v')], ∀ m ∈ ms, e.1 < m.1 := by
        intro e he m hm
        obtain he | he := List.mem_append.1 he
        · exact above e he m (List.mem_cons_of_mem _ hm)
        · obtain rfl := List.mem_singleton.1 he
          exact first m hm
      obtain ⟨ms', rfl, resemble⟩ := ih rest above' h
      exact ⟨(k, v') :: ms', by simp, .cons ⟨rfl, resembles_of_ofText? again⟩ resemble⟩

/-- An object whose members are in order is read again member by member. -/
theorem members_reread {level : Nat} {ms : List (String × Value)} {v : Value}
    (ascending : Entries.Ascending ms) (h : ofText? level (object ms).toText = some v) :
    ∃ ms', v = object ms' ∧ MembersResemble ms ms' := by
  cases level with
  | zero => simp [toText, ofText?] at h
  | succ level =>
    rw [toText, ofText?, Option.map_eq_some_iff] at h
    obtain ⟨es, hes, rfl⟩ := h
    obtain ⟨ms', hms', resemble⟩ := members_reread_onto ascending (by simp) hes
    exact ⟨ms', by rw [hms', List.nil_append], resemble⟩

end Value

/-! ## Records -/

namespace Record

/-- Fields of the same names, in the same order, with resembling texts. -/
abbrev FieldsResemble (fs fs' : List (String × Text)) : Prop :=
  List.Forall₂ (fun f f' => f'.1 = f.1 ∧ f.2.Resembles f'.2) fs fs'

theorem FieldsResemble.lookup {fs fs' : List (String × Text)} (h : FieldsResemble fs fs')
    (key : String) : Option.Rel Text.Resembles (fs.lookup key) (fs'.lookup key) := by
  induction h with
  | nil => exact .none
  | @cons f f' fs fs' first _ ih =>
    obtain ⟨name, resemble⟩ := first
    rw [List.lookup_cons, List.lookup_cons, name]
    cases key == f.1 with
    | true => exact .some resemble
    | false => exact ih

/-- Resembling members give fields that resemble each other. -/
theorem ofMembers?_resembling {fields : List Field} {found found' : List (String × Text)}
    (h : FieldsResemble found found') {ms ms' : List (String × Value)}
    (members : Value.MembersResemble ms ms') :
    Option.Rel FieldsResemble (ofMembers? fields found (Value.membersToText ms))
      (ofMembers? fields found' (Value.membersToText ms')) := by
  induction members generalizing found found' with
  | nil => exact .some h
  | @cons m m' ms ms' first _ ih =>
    obtain ⟨key, v⟩ := m
    obtain ⟨key', v'⟩ := m'
    obtain ⟨rfl, resemble⟩ := first
    -- On both sides a member that is no field is passed over, and a second one of a name is
    -- refused.
    simp only [Value.membersToText, ofMembers?, Symbol.meaning?_ofString]
    split
    · have twice : (found'.lookup key').isSome = (found.lookup key').isSome := by
        have given := h.lookup key'
        generalize found.lookup key' = a, found'.lookup key' = a' at given
        cases given <;> rfl
      rw [twice]
      split
      · exact .none
      · exact ih (List.rel_append h (.cons ⟨rfl, resemble⟩ .nil))
    · exact ih h

variable {fs fs' : List (String × Text)} (h : FieldsResemble fs fs') (level : Nat) (name : String)

include h

theorem FieldsResemble.required_string :
    required ⟨level, fs'⟩ name Reader.string = required ⟨level, fs⟩ name Reader.string := by
  have given := h.lookup name
  simp only [required]
  generalize fs.lookup name = a, fs'.lookup name = a' at given
  cases given with
  | none => rfl
  | some resemble => exact resemble.string level

theorem FieldsResemble.orDefault_word64 (default : UInt64) :
    orDefault ⟨level, fs'⟩ name default Reader.word64 =
      orDefault ⟨level, fs⟩ name default Reader.word64 := by
  have given := h.lookup name
  simp only [orDefault]
  generalize fs.lookup name = a, fs'.lookup name = a' at given
  cases given with
  | none => rfl
  | some resemble => exact resemble.word64 level

end Record

end Json

end VersionedStore
