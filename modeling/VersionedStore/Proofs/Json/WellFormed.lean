import VersionedStore.Json.Text
import VersionedStore.Proofs.Data.Decimal

/-!
# Well-formed texts

A number has digits where the grammar asks for them, and a string has no control character
that a backslash and one character do not stand for. Such a text is written with printable
octets only, so it stands on one line.

## Main definitions

* `Literal.WellFormed`, `Symbol.WellFormed`, `Text.WellFormed` — the three levels

## Main results

* `Text.WellFormed.printable` — no octet of a well-formed text is below U+0020
* `Text.wellFormed_ofString`, `Text.wellFormed_ofNat`, `Text.wellFormed_ofMembers` — what
  messages are made of is well formed
-/

namespace VersionedStore.Json

/-! ## Definitions -/

/-- A number has digits before the point, no superfluous zero in front, and digits after a
point and in an exponent. -/
structure Literal.WellFormed (n : Literal) : Prop where
  whole : n.whole ≠ []
  leading : ∀ d ds, n.whole = d :: ds → d.val = 0 → ds = []
  fraction : n.fraction ≠ some []
  exponent : ∀ e, n.exponent = some e → e.digits ≠ []

/-- An octet of a string is no control character, unless it has a short escape. -/
def Symbol.WellFormed : Symbol → Prop
  | .plain b => 0x20 ≤ b ∨ (shortEscapes.lookup b).isSome
  | .unit _ => True

namespace Text

mutual

/-- The numbers and strings of a text are well formed. -/
def WellFormed : Text → Prop
  | null => True
  | bool _ => True
  | number n => n.WellFormed
  | string s => ∀ x ∈ s, x.WellFormed
  | array elements => ElementsWellFormed elements
  | object members => MembersWellFormed members

/-- The elements of an array are well formed. -/
def ElementsWellFormed : List Text → Prop
  | [] => True
  | t :: ts => t.WellFormed ∧ ElementsWellFormed ts

/-- The members of an object are well formed, keys and values. -/
def MembersWellFormed : List (List Symbol × Text) → Prop
  | [] => True
  | (k, t) :: ms => (∀ x ∈ k, x.WellFormed) ∧ t.WellFormed ∧ MembersWellFormed ms

end

theorem elementsWellFormed_iff {ts : List Text} :
    ElementsWellFormed ts ↔ ∀ t ∈ ts, t.WellFormed := by
  induction ts with
  | nil => simp [ElementsWellFormed]
  | cons t ts ih => simp [ElementsWellFormed, ih]

theorem membersWellFormed_iff {ms : List (List Symbol × Text)} :
    MembersWellFormed ms ↔ ∀ m ∈ ms, (∀ x ∈ m.1, x.WellFormed) ∧ m.2.WellFormed := by
  induction ms with
  | nil => simp [MembersWellFormed]
  | cons m ms ih => simp only [MembersWellFormed, ih, List.forall_mem_cons, and_assoc]

end Text

/-! ## What messages are made of -/

theorem Symbol.wellFormed_ofString (s : String) : ∀ x ∈ ofString s, x.WellFormed := by
  intro x hx
  obtain ⟨b, -, rfl⟩ := List.mem_map.1 hx
  split
  · trivial
  · next h =>
    by_cases hb : b < 0x20
    · right
      simpa [hb] using h
    · left
      exact UInt8.not_lt.1 hb

theorem Literal.wellFormed_digits (negative : Bool) (n : Nat) :
    (Literal.mk negative (Decimal.digits n) none none).WellFormed where
  whole := Decimal.digits_ne_nil n
  leading d ds h hzero := (Decimal.digits_leading n d ds h hzero).2
  fraction := by simp
  exponent := by simp

namespace Text

theorem wellFormed_ofString (s : String) : (ofString s).WellFormed := by
  unfold ofString WellFormed
  exact Symbol.wellFormed_ofString s

theorem wellFormed_ofNat (n : Nat) : (ofNat n).WellFormed := by
  unfold ofNat WellFormed
  exact Literal.wellFormed_digits false n

theorem wellFormed_ofMembers {ms : List (String × Text)} (h : ∀ m ∈ ms, m.2.WellFormed) :
    (ofMembers ms).WellFormed := by
  unfold ofMembers WellFormed
  rw [membersWellFormed_iff]
  intro m hm
  obtain ⟨m', hm', rfl⟩ := List.mem_map.1 hm
  exact ⟨Symbol.wellFormed_ofString m'.1, h m' hm'⟩

theorem wellFormed_array {ts : List Text} (h : ∀ t ∈ ts, t.WellFormed) :
    (array ts).WellFormed := by
  unfold WellFormed
  exact elementsWellFormed_iff.2 h

end Text

/-! ## Printable octets -/

-- A check of all elements looks at these alone, not at every octet there is.
private theorem printable_of_all {bs : Bytes} (h : bs.all (0x20 ≤ ·) = true) :
    ∀ b ∈ bs, 0x20 ≤ b := by
  intro b hb
  exact of_decide_eq_true (List.all_eq_true.1 h b hb)

theorem Digit.printable (d : Digit) : 0x20 ≤ d.octet := by
  revert d
  decide

private theorem printable_digits (ds : List Digit) : ∀ b ∈ ds.map Digit.octet, 0x20 ≤ b := by
  intro b hb
  obtain ⟨d, -, rfl⟩ := List.mem_map.1 hb
  exact Digit.printable d

private theorem Literal.printable (n : Literal) : ∀ b ∈ n.write, 0x20 ≤ b := by
  have exponentPrintable (e : Exponent) : ∀ b ∈ Literal.writeExponent e, 0x20 ≤ b := by
    unfold writeExponent
    cases e.sign <;>
      simpa [show 0x20 ≤ octet 'e' by decide, show 0x20 ≤ octet '+' by decide,
        show 0x20 ≤ octet '-' by decide] using printable_digits e.digits
  unfold write
  intro b hb
  simp only [List.mem_append] at hb
  obtain ((hb | hb) | hb) | hb := hb
  · split at hb
    · obtain rfl := List.mem_singleton.1 hb
      decide
    · simp at hb
  · exact printable_digits _ b hb
  · cases hf : n.fraction with
    | none => simp [hf] at hb
    | some ds =>
      rw [hf] at hb
      obtain rfl | hb := List.mem_cons.1 hb
      · decide
      · exact printable_digits _ b hb
  · cases he : n.exponent with
    | none => simp [he] at hb
    | some e =>
      rw [he] at hb
      exact exponentPrintable e b hb

/-- The character after a backslash is printable. -/
private theorem printable_shortEscapes : ∀ e ∈ shortEscapes, 0x20 ≤ e.2 := by
  intro e he
  have all : shortEscapes.all (fun e => 0x20 ≤ e.2) = true := by decide
  exact of_decide_eq_true (List.all_eq_true.1 all e he)

theorem mem_shortEscapes {b c : UInt8} (h : shortEscapes.lookup b = some c) :
    (b, c) ∈ shortEscapes := by
  obtain ⟨before, after, hes, -⟩ := List.lookup_eq_some_iff.1 h
  rw [hes]
  exact List.mem_append_right _ List.mem_cons_self

private theorem printable_lower (d : Fin 16) : 0x20 ≤ octet (Hexadecimal.lower d) := by
  revert d
  decide

private theorem Symbol.printable {x : Symbol} (h : x.WellFormed) : ∀ b ∈ x.write, 0x20 ≤ b := by
  intro b hb
  cases x with
  | plain c =>
    unfold write at hb
    cases hc : shortEscapes.lookup c with
    -- Without an escape the octet stands for itself, and is printable as the string is well formed.
    | none =>
      simp only [hc, List.mem_singleton] at hb
      subst hb
      simpa [WellFormed, hc] using h
    | some e =>
      simp only [hc, List.mem_cons, List.not_mem_nil, or_false] at hb
      obtain rfl | rfl := hb
      · decide
      · exact printable_shortEscapes _ (mem_shortEscapes hc)
  | unit u =>
    simp only [write, writeUnit, List.map_cons, List.map_nil, List.mem_cons, List.not_mem_nil,
      or_false] at hb
    obtain rfl | rfl | rfl | rfl | rfl | rfl := hb
    · decide
    · decide
    all_goals exact printable_lower _

private theorem Symbol.printable_quoted {s : List Symbol} (h : ∀ x ∈ s, x.WellFormed) :
    ∀ b ∈ writeQuoted s, 0x20 ≤ b := by
  intro b hb
  simp only [writeQuoted, List.cons_append, List.mem_cons, List.mem_append, List.mem_flatMap,
    List.not_mem_nil, or_false] at hb
  obtain rfl | ⟨x, hx, hb⟩ | rfl := hb
  · decide
  · exact Symbol.printable (h x hx) b hb
  · decide

namespace Text

/- The four statements follow the four writers: a text, the elements of an array, and the
members of an object, the first one and those after it. -/
mutual

/-- A well-formed text is written with printable octets only. -/
theorem WellFormed.printable : ∀ {t : Text}, t.WellFormed → ∀ b ∈ t.write, 0x20 ≤ b
  | null, _ => by simp only [write]; exact printable_of_all (by decide)
  | bool true, _ => by simp only [write]; exact printable_of_all (by decide)
  | bool false, _ => by simp only [write]; exact printable_of_all (by decide)
  | number n, _ => by simpa only [write] using n.printable
  | string s, h => by
    unfold WellFormed at h
    simpa only [write] using Symbol.printable_quoted h
  | array ts, h => by
    unfold WellFormed at h
    simp only [write, List.forall_mem_cons]
    exact ⟨by decide, printable_elements h⟩
  | object ms, h => by
    unfold WellFormed at h
    simp only [write, List.forall_mem_cons]
    exact ⟨by decide, printable_members h⟩

private theorem printable_elements : ∀ {ts : List Text}, ElementsWellFormed ts →
    ∀ b ∈ writeElements ts, 0x20 ≤ b
  | [], _ => by simp only [writeElements]; exact printable_of_all (by decide)
  | t :: ts, h => by
    unfold ElementsWellFormed at h
    simp only [writeElements, List.forall_mem_append]
    exact ⟨h.1.printable, printable_moreElements h.2⟩

private theorem printable_moreElements : ∀ {ts : List Text}, ElementsWellFormed ts →
    ∀ b ∈ writeMoreElements ts, 0x20 ≤ b
  | [], _ => by simp only [writeMoreElements]; exact printable_of_all (by decide)
  | t :: ts, h => by
    unfold ElementsWellFormed at h
    simp only [writeMoreElements, List.cons_append, List.forall_mem_cons, List.forall_mem_append]
    exact ⟨by decide, h.1.printable, printable_moreElements h.2⟩

private theorem printable_members : ∀ {ms : List (List Symbol × Text)}, MembersWellFormed ms →
    ∀ b ∈ writeMembers ms, 0x20 ≤ b
  | [], _ => by simp only [writeMembers]; exact printable_of_all (by decide)
  | (k, t) :: ms, h => by
    unfold MembersWellFormed at h
    simp only [writeMembers, List.append_assoc, List.cons_append, List.forall_mem_cons,
      List.forall_mem_append]
    exact ⟨Symbol.printable_quoted h.1, by decide, h.2.1.printable, printable_moreMembers h.2.2⟩

private theorem printable_moreMembers : ∀ {ms : List (List Symbol × Text)},
    MembersWellFormed ms → ∀ b ∈ writeMoreMembers ms, 0x20 ≤ b
  | [], _ => by simp only [writeMoreMembers]; exact printable_of_all (by decide)
  | (k, t) :: ms, h => by
    unfold MembersWellFormed at h
    simp only [writeMoreMembers, List.append_assoc, List.cons_append, List.forall_mem_cons,
      List.forall_mem_append]
    exact ⟨by decide, Symbol.printable_quoted h.1, by decide, h.2.1.printable,
      printable_moreMembers h.2.2⟩

end

/-- A well-formed text stands on one line. -/
theorem WellFormed.lineFeed_notMem {t : Text} (h : t.WellFormed) : octet '\n' ∉ t.write :=
  fun hmem => absurd (h.printable _ hmem) (by decide)

end Text

end VersionedStore.Json
