import Mathlib.Tactic.SplitIfs
import VersionedStore.Json.Text.Reader
import VersionedStore.Proofs.Json.WellFormed

/-!
# Reading undoes writing

A well-formed text is read back from its octets. The reader meets the text in front of other
octets, so every statement carries a rest. After a number the rest must not go on with the
number; what stands after an element of an array or a member of an object never does.

## Main results

* `Symbol.readQuoted_write` — a string is read up to its closing quote
* `Literal.read_write` — a number is read up to what stops it
* `Text.parse?_write` — a well-formed text is read back from its octets
-/

namespace VersionedStore.Json

/-! ## Strings -/

namespace Symbol

private theorem shortEscape?_of_mem :
    ∀ e ∈ shortEscapes, shortEscape? e.2 = some e.1 ∧ e.2 ≠ octet 'u' := by
  intro e he
  have all : shortEscapes.all (fun e => shortEscape? e.2 = some e.1 ∧ e.2 ≠ octet 'u') = true := by
    decide
  exact of_decide_eq_true (List.all_eq_true.1 all e he)

private theorem lookup_ne_none : shortEscapes.lookup (octet '"') ≠ none ∧
    shortEscapes.lookup (octet '\\') ≠ none := by
  decide

private theorem unitOfHex?_writeUnit (u : UInt16) :
    let high := UInt8.ofNat (u.toNat / 0x100)
    let low := UInt8.ofNat (u.toNat % 0x100)
    unitOfHex? (octet (Hexadecimal.lower (Hexadecimal.high high)))
      (octet (Hexadecimal.lower (Hexadecimal.low high)))
      (octet (Hexadecimal.lower (Hexadecimal.high low)))
      (octet (Hexadecimal.lower (Hexadecimal.low low))) = some u := by
  have bound := u.toNat_lt
  simp only [unitOfHex?, Hexadecimal.value?_lower, Hexadecimal.high, Hexadecimal.low,
    UInt8.toNat_ofNat']
  rw [show u.toNat / 0x100 % 2 ^ 8 / 16 * 0x1000 + u.toNat / 0x100 % 2 ^ 8 % 16 * 0x100 +
    u.toNat % 0x100 % 2 ^ 8 / 16 * 0x10 + u.toNat % 0x100 % 2 ^ 8 % 16 = u.toNat by omega]
  exact congrArg some UInt16.ofNat_toNat

private theorem quote_ne_backslash : octet '\\' ≠ octet '"' := by decide

theorem readQuoted_quote (rest : Bytes) : readQuoted (octet '"' :: rest) = some ([], rest) := by
  rw [readQuoted.eq_def]
  simp only [↓reduceIte]

theorem readQuoted_plain {b : UInt8} (quote : b ≠ octet '"') (backslash : b ≠ octet '\\')
    (control : ¬ b < 0x20) (rest : Bytes) :
    readQuoted (b :: rest) = (readQuoted rest).map fun r => (plain b :: r.1, r.2) := by
  rw [readQuoted.eq_def]
  simp only [if_neg quote, if_neg backslash, if_neg control]
  cases readQuoted rest <;> rfl

theorem readQuoted_escape {b c : UInt8} (h : shortEscape? c = some b) (hu : c ≠ octet 'u')
    (rest : Bytes) :
    readQuoted (octet '\\' :: c :: rest) =
      (readQuoted rest).map fun r => (plain b :: r.1, r.2) := by
  rw [readQuoted.eq_def]
  simp only [if_neg quote_ne_backslash, ↓reduceIte, if_neg hu, h]
  cases readQuoted rest <;> rfl

theorem readQuoted_unit {h₁ h₂ h₃ h₄ : UInt8} {u : UInt16} (h : unitOfHex? h₁ h₂ h₃ h₄ = some u)
    (rest : Bytes) :
    readQuoted (octet '\\' :: octet 'u' :: h₁ :: h₂ :: h₃ :: h₄ :: rest) =
      (readQuoted rest).map fun r => (unit u :: r.1, r.2) := by
  rw [readQuoted.eq_def]
  simp only [if_neg quote_ne_backslash, ↓reduceIte, h]
  cases readQuoted rest <;> rfl

/-- One piece of a string is read off the front. -/
private theorem readQuoted_symbol {x : Symbol} (h : x.WellFormed) (rest : Bytes) :
    readQuoted (x.write ++ rest) = (readQuoted rest).map fun r => (x :: r.1, r.2) := by
  cases x with
  | plain b =>
    -- An octet with a short escape is written as that, any other one as it is; and then it is
    -- no quote, no backslash and no control character.
    cases hb : shortEscapes.lookup b with
    | some c =>
      obtain ⟨hc, hu⟩ := shortEscape?_of_mem _ (mem_shortEscapes hb)
      simp only [write, hb]
      exact readQuoted_escape hc hu rest
    | none =>
      have quote : b ≠ octet '"' := fun e => lookup_ne_none.1 (e ▸ hb)
      have backslash : b ≠ octet '\\' := fun e => lookup_ne_none.2 (e ▸ hb)
      have control : ¬ b < 0x20 := by
        refine UInt8.not_lt.2 ?_
        simpa [WellFormed, hb] using h
      simp only [write, hb]
      exact readQuoted_plain quote backslash control rest
  | unit u => exact readQuoted_unit (unitOfHex?_writeUnit u) rest

/-- A string is read up to its closing quote. -/
theorem readQuoted_write {s : List Symbol} (h : ∀ x ∈ s, x.WellFormed) (rest : Bytes) :
    readQuoted (s.flatMap write ++ octet '"' :: rest) = some (s, rest) := by
  induction s with
  | nil => exact readQuoted_quote rest
  | cons x s ih =>
    rw [List.flatMap_cons, List.append_assoc, readQuoted_symbol (h x List.mem_cons_self),
      ih fun y hy => h y (List.mem_cons_of_mem _ hy)]
    rfl

end Symbol

/-! ## Numbers -/

/-- The octets do not start with a digit. -/
def NoDigit (bs : Bytes) : Prop := ∀ b ∈ bs.head?, Digit.ofOctet? b = none

/-- The octets do not go on with a number: they start neither with a digit nor with a point or
the letter of an exponent. -/
structure Stops (bs : Bytes) : Prop where
  digit : NoDigit bs
  point : ∀ b ∈ bs.head?, b ≠ octet '.'
  exponent : ∀ b ∈ bs.head?, b ≠ octet 'e' ∧ b ≠ octet 'E'

theorem stops_nil : Stops [] := ⟨by simp [NoDigit], by simp, by simp⟩

/-- What may stand after an element or a member stops a number. -/
theorem stops_separator {b : UInt8} {bs : Bytes}
    (h : b = octet ',' ∨ b = octet ']' ∨ b = octet '\x7d') : Stops (b :: bs) := by
  constructor <;> (simp only [NoDigit, List.head?_cons, Option.mem_some_iff]; rintro _ rfl)
  all_goals rcases h with rfl | rfl | rfl <;> decide

private theorem ofOctet?_octet (d : Digit) : Digit.ofOctet? d.octet = some d := by
  revert d
  decide

theorem takeDigits_append (ds : List Digit) {rest : Bytes} (h : NoDigit rest) :
    takeDigits (ds.map Digit.octet ++ rest) = (ds, rest) := by
  induction ds with
  | nil =>
    cases rest with
    | nil => rfl
    | cons b rest => simp [takeDigits, h b rfl]
  | cons d ds ih => simp [takeDigits, ofOctet?_octet, ih]

namespace Literal

variable {rest : Bytes}

private theorem readExponentDigits_append (sign : ExponentSign) {ds : List Digit} (hds : ds ≠ [])
    (h : NoDigit rest) :
    readExponentDigits sign (ds.map Digit.octet ++ rest) = some (some ⟨sign, ds⟩, rest) := by
  obtain ⟨d, ds', rfl⟩ := List.exists_cons_of_ne_nil hds
  rw [readExponentDigits, takeDigits_append _ h]

private theorem digit_ne_sign (d : Digit) : d.octet ≠ octet '+' ∧ d.octet ≠ octet '-' := by
  revert d
  decide

private theorem readExponent_write {e : Exponent} (he : e.digits ≠ []) (h : Stops rest) :
    readExponent (writeExponent e ++ rest) = some (some e, rest) := by
  obtain ⟨sign, digits⟩ := e
  have letter : (octet 'e' == octet 'e' || octet 'e' == octet 'E') = true := by decide
  simp only at he
  cases sign with
  | absent =>
    obtain ⟨d, ds, rfl⟩ := List.exists_cons_of_ne_nil he
    simp only [writeExponent, List.map_cons, List.cons_append]
    rw [readExponent, if_pos letter]
    simp only [if_neg (digit_ne_sign d).1, if_neg (digit_ne_sign d).2]
    exact readExponentDigits_append .absent he h.digit
  | plus =>
    simp only [writeExponent, List.cons_append]
    rw [readExponent, if_pos letter]
    simp only [↓reduceIte]
    exact readExponentDigits_append .plus he h.digit
  | minus =>
    simp only [writeExponent, List.cons_append]
    rw [readExponent, if_pos letter]
    simp only [if_neg (show octet '-' ≠ octet '+' by decide), ↓reduceIte]
    exact readExponentDigits_append .minus he h.digit

private theorem readExponent_stops (h : Stops rest) : readExponent rest = some (none, rest) := by
  cases rest with
  | nil => rfl
  | cons b rest =>
    obtain ⟨lower, upper⟩ := h.exponent b rfl
    rw [readExponent.eq_def]
    simp only
    rw [if_neg (by simp [lower, upper])]

/-- The exponent of a number, or that there is none, and the rest. -/
private def exponentPart (e : Option Exponent) : Bytes :=
  match e with
  | none => []
  | some e => writeExponent e

private theorem readExponent_part {e : Option Exponent} (he : ∀ x, e = some x → x.digits ≠ [])
    (h : Stops rest) : readExponent (exponentPart e ++ rest) = some (e, rest) := by
  cases e with
  | none => exact readExponent_stops h
  | some e => exact readExponent_write (he e rfl) h

private theorem head?_exponentPart (rest : Bytes) (e : Option Exponent) :
    ∀ b ∈ (exponentPart e ++ rest).head?, b = octet 'e' ∨ b ∈ rest.head? := by
  cases e with
  | none => exact fun b hb => .inr hb
  | some e =>
    intro b hb
    exact .inl (Option.mem_some_iff.1 hb).symm

private theorem noDigit_exponentPart (e : Option Exponent) (h : Stops rest) :
    NoDigit (exponentPart e ++ rest) := by
  intro b hb
  obtain rfl | hb := head?_exponentPart rest e b hb
  · decide
  · exact h.digit b hb

/-- The fraction of a number, or that there is none. -/
private def fractionPart (f : Option (List Digit)) : Bytes :=
  match f with
  | none => []
  | some ds => octet '.' :: ds.map Digit.octet

private theorem readFraction_part {f : Option (List Digit)} (hf : f ≠ some [])
    (e : Option Exponent) (h : Stops rest) :
    readFraction (fractionPart f ++ (exponentPart e ++ rest)) =
      some (f, exponentPart e ++ rest) := by
  cases f with
  | none =>
    simp only [fractionPart, List.nil_append]
    -- Without a fraction the reader is at the exponent or at the rest, and neither is a point.
    cases hr : exponentPart e ++ rest with
    | nil => rfl
    | cons b bs =>
      have point : b ≠ octet '.' := by
        obtain rfl | hb := head?_exponentPart rest e b (by rw [hr]; rfl)
        · decide
        · exact h.point b hb
      rw [readFraction, if_neg point]
  | some ds =>
    obtain ⟨d, ds, rfl⟩ := List.exists_cons_of_ne_nil fun hds => hf (congrArg some hds)
    simp only [fractionPart, List.cons_append]
    rw [readFraction, if_pos rfl, takeDigits_append _ (noDigit_exponentPart e h)]

private theorem noDigit_fractionPart (f : Option (List Digit)) (e : Option Exponent)
    (h : Stops rest) : NoDigit (fractionPart f ++ (exponentPart e ++ rest)) := by
  cases f with
  | none => exact noDigit_exponentPart e h
  | some ds =>
    intro b hb
    obtain rfl := Option.mem_some_iff.1 hb
    decide

private theorem write_eq (n : Literal) :
    n.write = (if n.negative then [octet '-'] else []) ++ (n.whole.map Digit.octet ++
      (fractionPart n.fraction ++ exponentPart n.exponent)) := by
  simp only [write, List.append_assoc]
  rfl

private theorem readUnsigned_parts {n : Literal} (h : n.WellFormed) (hrest : Stops rest) :
    readUnsigned n.negative (n.whole.map Digit.octet ++
      (fractionPart n.fraction ++ (exponentPart n.exponent ++ rest))) = some (n, rest) := by
  obtain ⟨d, ds, hw⟩ := List.exists_cons_of_ne_nil h.whole
  have whole : readWhole (n.whole.map Digit.octet ++
      (fractionPart n.fraction ++ (exponentPart n.exponent ++ rest))) =
        some (n.whole, fractionPart n.fraction ++ (exponentPart n.exponent ++ rest)) := by
    rw [readWhole, takeDigits_append _ (noDigit_fractionPart _ _ hrest), hw]
    simp only
    rw [if_neg]
    -- The reader refuses a zero before other digits, which a well-formed number has not.
    rintro ⟨hzero, hne⟩
    exact hne (h.leading d ds hw hzero)
  rw [readUnsigned, whole]
  simp only [readFraction_part h.fraction n.exponent hrest, readExponent_part h.exponent hrest]

/-- A well-formed number is read up to what stops it. -/
theorem read_write {n : Literal} (h : n.WellFormed) (hrest : Stops rest) :
    read (n.write ++ rest) = some (n, rest) := by
  have parts := readUnsigned_parts h hrest
  rw [write_eq, List.append_assoc, List.append_assoc, List.append_assoc]
  cases hneg : n.negative with
  | true =>
    rw [hneg] at parts
    rw [if_pos rfl, List.cons_append, List.nil_append, read, if_pos rfl, parts]
  | false =>
    rw [hneg] at parts
    obtain ⟨d, ds, hw⟩ := List.exists_cons_of_ne_nil h.whole
    rw [if_neg (by simp), List.nil_append]
    rw [hw, List.map_cons, List.cons_append] at parts ⊢
    rw [read, if_neg (digit_ne_sign d).2, parts]

/-- A well-formed number starts with a minus sign or a digit. -/
theorem write_eq_cons {n : Literal} (h : n.WellFormed) :
    ∃ b bs, n.write = b :: bs ∧ (b = octet '-' ∨ ∃ d : Digit, b = d.octet) := by
  obtain ⟨d, ds, hw⟩ := List.exists_cons_of_ne_nil h.whole
  rw [write_eq, hw]
  cases n.negative with
  | true => exact ⟨_, _, rfl, .inl rfl⟩
  | false => exact ⟨_, _, rfl, .inr ⟨d, rfl⟩⟩

end Literal

/-! ## Texts -/

namespace Text

/-- An octet that starts a text: no white space, and no closing bracket. -/
private def Starts (b : UInt8) : Prop :=
  (∀ rest, skipSpace (b :: rest) = b :: rest) ∧ b ≠ octet ']'

private theorem starts_of {b : UInt8} (space : b ≠ octet ' ') (lineFeed : b ≠ octet '\n')
    (carriageReturn : b ≠ octet '\r') (tab : b ≠ octet '\t') (bracket : b ≠ octet ']') :
    Starts b :=
  ⟨fun rest => by simp [skipSpace, space, lineFeed, carriageReturn, tab], bracket⟩

private theorem starts_digit (d : Digit) : Starts d.octet := by
  have codes : d.octet ≠ octet ' ' ∧ d.octet ≠ octet '\n' ∧ d.octet ≠ octet '\r' ∧
      d.octet ≠ octet '\t' ∧ d.octet ≠ octet ']' := by
    revert d
    decide
  exact starts_of codes.1 codes.2.1 codes.2.2.1 codes.2.2.2.1 codes.2.2.2.2

private theorem WellFormed.write_eq_cons {t : Text} (h : t.WellFormed) :
    ∃ b bs, t.write = b :: bs ∧ Starts b := by
  have starts (c : Char) (hc : octet c ≠ octet ' ' ∧ octet c ≠ octet '\n' ∧ octet c ≠ octet '\r' ∧
      octet c ≠ octet '\t' ∧ octet c ≠ octet ']') : Starts (octet c) :=
    starts_of hc.1 hc.2.1 hc.2.2.1 hc.2.2.2.1 hc.2.2.2.2
  cases t with
  | null => exact ⟨octet 'n', word "ull", by rw [write]; rfl, starts 'n' (by decide)⟩
  | bool b =>
    cases b with
    | true => exact ⟨octet 't', word "rue", by rw [write]; rfl, starts 't' (by decide)⟩
    | false => exact ⟨octet 'f', word "alse", by rw [write]; rfl, starts 'f' (by decide)⟩
  | number n =>
    unfold WellFormed at h
    obtain ⟨b, bs, hn, hb⟩ := Literal.write_eq_cons h
    refine ⟨b, bs, by rw [write, hn], ?_⟩
    obtain rfl | ⟨d, rfl⟩ := hb
    · exact starts '-' (by decide)
    · exact starts_digit d
  | string s => exact ⟨octet '"', _, by rw [write, Symbol.writeQuoted]; rfl, starts '"' (by decide)⟩
  | array ts => exact ⟨octet '[', _, by rw [write], starts '[' (by decide)⟩
  | object ms => exact ⟨octet '\x7b', _, by rw [write], starts '\x7b' (by decide)⟩

private theorem skipSpace_octet {c : Char} (hc : octet c ≠ octet ' ' ∧ octet c ≠ octet '\n' ∧
    octet c ≠ octet '\r' ∧ octet c ≠ octet '\t') (rest : Bytes) :
    skipSpace (octet c :: rest) = octet c :: rest := by
  simp [skipSpace, hc.1, hc.2.1, hc.2.2.1, hc.2.2.2]

private theorem stripWord?_append (w rest : Bytes) : stripWord? w (w ++ rest) = some rest := by
  induction w with
  | nil => rfl
  | cons b w ih => simp [stripWord?, ih]

private theorem readKey_write {k : List Symbol} (h : ∀ x ∈ k, x.WellFormed) (rest : Bytes) :
    readKey (Symbol.writeQuoted k ++ octet ':' :: rest) = some (k, rest) := by
  simp only [Symbol.writeQuoted, List.cons_append, List.append_assoc, List.nil_append, readKey]
  rw [skipSpace_octet (by decide)]
  simp only [↓reduceIte, Symbol.readQuoted_write h]
  rw [skipSpace_octet (by decide)]
  simp only [↓reduceIte]

/-- What the reader sees of a number is neither a string, an array, an object nor a word. -/
private theorem number_start {b : UInt8} (h : b = octet '-' ∨ ∃ d : Digit, b = d.octet) :
    b ≠ octet '"' ∧ b ≠ octet '[' ∧ b ≠ octet '\x7b' ∧ b ≠ octet 'n' ∧ b ≠ octet 't' ∧
      b ≠ octet 'f' := by
  obtain rfl | ⟨d, rfl⟩ := h
  · decide
  · revert d
    decide

private theorem stops_moreElements (ts : List Text) (rest : Bytes) :
    Stops (writeMoreElements ts ++ rest) := by
  cases ts with
  | nil => exact stops_separator (.inr (.inl rfl))
  | cons t ts => exact stops_separator (.inl rfl)

private theorem stops_moreMembers (ms : List (List Symbol × Text)) (rest : Bytes) :
    Stops (writeMoreMembers ms ++ rest) := by
  cases ms with
  | nil => exact stops_separator (.inr (.inr rfl))
  | cons m ms => exact stops_separator (.inl rfl)

private theorem read_number {n : Literal} (h : n.WellFormed) {rest : Bytes} (hrest : Stops rest)
    (fuel : Nat) : read (fuel + 1) (n.write ++ rest) = some (number n, rest) := by
  obtain ⟨b, bs, hn, hb⟩ := Literal.write_eq_cons h
  have start := number_start hb
  have numberRead := Literal.read_write h hrest
  have space : skipSpace (b :: (bs ++ rest)) = b :: (bs ++ rest) := by
    obtain rfl | ⟨d, rfl⟩ := hb
    · exact skipSpace_octet (by decide) _
    · exact (starts_digit d).1 _
  rw [hn, List.cons_append] at numberRead ⊢
  rw [read, space]
  simp only [if_neg start.1, if_neg start.2.1, if_neg start.2.2.1, if_neg start.2.2.2.1,
    if_neg start.2.2.2.2.1, if_neg start.2.2.2.2.2, numberRead, Option.map_some]

/- Every step of the reader takes one unit of fuel, and an octet of the text is worth three:
one for the text it starts, two for the way down to it. The statements follow the writers. -/
mutual

private theorem read_write : ∀ {t : Text} (fuel : Nat) (rest : Bytes), t.WellFormed → Stops rest →
    3 * t.write.length ≤ fuel → read fuel (t.write ++ rest) = some (t, rest)
  | t, 0, _, h, _, hf => by
    obtain ⟨b, bs, hw, -⟩ := h.write_eq_cons
    simp [hw] at hf
  | null, fuel + 1, rest, _, _, _ => by
    rw [write, show word "null" = octet 'n' :: word "ull" from rfl, List.cons_append, read,
      skipSpace_octet (by decide)]
    simp only [↓reduceIte, stripWord?_append, Option.map_some,
      show octet 'n' ≠ octet '"' by decide, show octet 'n' ≠ octet '[' by decide,
      show octet 'n' ≠ octet '\x7b' by decide]
  | bool true, fuel + 1, rest, _, _, _ => by
    rw [write, show word "true" = octet 't' :: word "rue" from rfl, List.cons_append, read,
      skipSpace_octet (by decide)]
    simp only [↓reduceIte, stripWord?_append, Option.map_some,
      show octet 't' ≠ octet '"' by decide, show octet 't' ≠ octet '[' by decide,
      show octet 't' ≠ octet '\x7b' by decide, show octet 't' ≠ octet 'n' by decide]
  | bool false, fuel + 1, rest, _, _, _ => by
    rw [write, show word "false" = octet 'f' :: word "alse" from rfl, List.cons_append, read,
      skipSpace_octet (by decide)]
    simp only [↓reduceIte, stripWord?_append, Option.map_some,
      show octet 'f' ≠ octet '"' by decide, show octet 'f' ≠ octet '[' by decide,
      show octet 'f' ≠ octet '\x7b' by decide, show octet 'f' ≠ octet 'n' by decide,
      show octet 'f' ≠ octet 't' by decide]
  | number n, fuel + 1, rest, h, hrest, _ => by
    unfold WellFormed at h
    rw [write, read_number h hrest]
  | string s, fuel + 1, rest, h, _, _ => by
    unfold WellFormed at h
    rw [write, Symbol.writeQuoted, List.cons_append, List.cons_append, read,
      skipSpace_octet (by decide)]
    simp only [↓reduceIte, List.append_assoc, List.cons_append, List.nil_append,
      Symbol.readQuoted_write h, Option.map_some]
  | array ts, fuel + 1, rest, h, _, hf => by
    unfold WellFormed at h
    rw [write, List.length_cons] at hf
    rw [write, List.cons_append, read, skipSpace_octet (by decide)]
    simp only [↓reduceIte, show octet '[' ≠ octet '"' by decide,
      readElements_write fuel rest h (by omega),
      Option.map_some]
  | object ms, fuel + 1, rest, h, _, hf => by
    unfold WellFormed at h
    rw [write, List.length_cons] at hf
    rw [write, List.cons_append, read, skipSpace_octet (by decide)]
    simp only [↓reduceIte, show octet '\x7b' ≠ octet '"' by decide,
      show octet '\x7b' ≠ octet '[' by decide,
      readMembers_write fuel rest h (by omega),
      Option.map_some]

private theorem readElements_write : ∀ {ts : List Text} (fuel : Nat) (rest : Bytes),
    ElementsWellFormed ts → 3 * (writeElements ts).length + 2 ≤ fuel →
    readElements fuel (writeElements ts ++ rest) = some (ts, rest)
  | _, 0, _, _, hf => by omega
  | [], fuel + 1, rest, _, _ => by
    rw [writeElements, List.cons_append, readElements, skipSpace_octet (by decide)]
    simp only [↓reduceIte, List.nil_append]
  | t :: ts, fuel + 1, rest, h, hf => by
    unfold ElementsWellFormed at h
    -- The first element must not be taken for the end of the array.
    obtain ⟨b, bs, hw, space, bracket⟩ := h.1.write_eq_cons
    have element := readElement_write fuel rest h.1 h.2 (by
      rw [writeElements] at hf
      omega)
    rw [writeElements, hw, List.cons_append, List.cons_append, readElements, space]
    rw [hw, List.cons_append, List.cons_append] at element
    simp only [if_neg bracket, element]

private theorem readElement_write : ∀ {t : Text} {ts : List Text} (fuel : Nat) (rest : Bytes),
    t.WellFormed → ElementsWellFormed ts →
    3 * (t.write ++ writeMoreElements ts).length + 1 ≤ fuel →
    readElement fuel (t.write ++ writeMoreElements ts ++ rest) = some (t :: ts, rest)
  | _, _, 0, _, _, _, hf => by omega
  | t, ts, fuel + 1, rest, h, hs, hf => by
    rw [List.length_append] at hf
    rw [List.append_assoc, readElement,
      read_write fuel _ h (stops_moreElements ts rest) (by omega)]
    cases ts with
    | nil =>
      simp only [writeMoreElements, List.cons_append, List.nil_append]
      rw [skipSpace_octet (by decide)]
      simp only [↓reduceIte]
    | cons t' ts' =>
      unfold ElementsWellFormed at hs
      simp only [writeMoreElements, List.cons_append, List.length_cons] at hf ⊢
      rw [skipSpace_octet (by decide)]
      simp only [show octet ',' ≠ octet ']' by decide, ↓reduceIte,
        readElement_write fuel rest hs.1 hs.2 (by omega), Option.map_some]

private theorem readMembers_write : ∀ {ms : List (List Symbol × Text)} (fuel : Nat) (rest : Bytes),
    MembersWellFormed ms → 3 * (writeMembers ms).length + 2 ≤ fuel →
    readMembers fuel (writeMembers ms ++ rest) = some (ms, rest)
  | _, 0, _, _, hf => by omega
  | [], fuel + 1, rest, _, _ => by
    rw [writeMembers, List.cons_append, readMembers, skipSpace_octet (by decide)]
    simp only [↓reduceIte, List.nil_append]
  | (k, t) :: ms, fuel + 1, rest, h, hf => by
    unfold MembersWellFormed at h
    have member := readMember_write fuel rest h.1 h.2.1 h.2.2 (by
      rw [writeMembers] at hf
      omega)
    -- A member starts with the quote of its key, so it is not the end of the object.
    have quoted : Symbol.writeQuoted k ++ octet ':' :: t.write ++ writeMoreMembers ms ++ rest =
        octet '"' :: (k.flatMap Symbol.write ++ [octet '"'] ++
          octet ':' :: t.write ++ writeMoreMembers ms ++ rest) := by
      simp [Symbol.writeQuoted]
    rw [writeMembers, quoted, readMembers, skipSpace_octet (by decide)]
    rw [quoted] at member
    simp only [show octet '"' ≠ octet '\x7d' by decide, ↓reduceIte, member]

private theorem readMember_write : ∀ {k : List Symbol} {t : Text} {ms : List (List Symbol × Text)}
    (fuel : Nat) (rest : Bytes), (∀ x ∈ k, x.WellFormed) → t.WellFormed → MembersWellFormed ms →
    3 * (Symbol.writeQuoted k ++ octet ':' :: t.write ++ writeMoreMembers ms).length + 1 ≤ fuel →
    readMember fuel (Symbol.writeQuoted k ++ octet ':' :: t.write ++ writeMoreMembers ms ++ rest) =
      some ((k, t) :: ms, rest)
  | _, _, _, 0, _, _, _, _, hf => by omega
  | k, t, ms, fuel + 1, rest, hk, h, hs, hf => by
    simp only [List.length_append, List.length_cons] at hf
    rw [List.append_assoc, List.append_assoc, List.cons_append, readMember, readKey_write hk]
    simp only [read_write fuel _ h (stops_moreMembers ms rest) (by omega)]
    cases ms with
    | nil =>
      simp only [writeMoreMembers, List.cons_append, List.nil_append]
      rw [skipSpace_octet (by decide)]
      simp only [↓reduceIte]
    | cons m ms =>
      unfold MembersWellFormed at hs
      simp only [writeMoreMembers, List.cons_append, List.length_append, List.length_cons] at hf ⊢
      rw [skipSpace_octet (by decide)]
      simp only [show octet ',' ≠ octet '\x7d' by decide, ↓reduceIte,
        readMember_write fuel rest hs.1 hs.2.1 hs.2.2 (by
          simp only [List.length_append, List.length_cons]
          omega), Option.map_some]

end

/-- A well-formed text is read back from its octets. -/
theorem parse?_write {t : Text} (h : t.WellFormed) : parse? t.write = some t := by
  have whole := read_write (3 * t.write.length + 3) [] h stops_nil (by omega)
  rw [List.append_nil] at whole
  rw [parse?, whole]
  rfl

end Text

end VersionedStore.Json
