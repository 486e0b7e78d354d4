import Mathlib.Data.List.Basic
import VersionedStore.Data.Percent
import VersionedStore.Proofs.Data.Utf8

/-!
# Decoding undoes percent encoding

An encoded text has plain octets and percent signs only, so it is never cut at a separator, and
it is decoded to the text that it encodes. Each of its percent signs has two digits behind it, so
none is taken for itself.

## Main results

* `decode_encode` — decoding undoes encoding
* `mem_encode`, `notMem_encode` — which characters an encoded text has, and which not
* `digits_of_percent` — what is behind a percent sign
* `encode_eq_self` — texts that are their own encodings
* `encode_eq_nil_iff` — only the empty text has an empty encoding
-/

namespace VersionedStore.Percent

variable {b : UInt8} {s : String}

/-! ## Octets -/

private theorem isPlain_upper (d : Fin 16) : isPlain (octet (Hexadecimal.upper d)) = true := by
  revert d
  decide

private theorem ofNat_octet_upper (d : Fin 16) :
    Char.ofNat (octet (Hexadecimal.upper d)).toNat = Hexadecimal.upper d := by
  revert d
  decide

theorem mem_encodeOctet {o : UInt8} (h : o ∈ encodeOctet b) : isPlain o = true ∨ o = octet '%' := by
  unfold encodeOctet at h
  split at h
  · next plain =>
    rw [List.mem_singleton.1 h]
    exact .inl plain
  · simp only [List.mem_cons, List.not_mem_nil, or_false] at h
    obtain rfl | rfl | rfl := h
    · exact .inr rfl
    · exact .inl (isPlain_upper _)
    · exact .inl (isPlain_upper _)

private theorem ne_percent_of_isPlain (h : isPlain b = true) : b ≠ octet '%' := by
  rintro rfl
  exact absurd h (by decide)

/-- A percent sign in the encoding of an octet and what follows it has its digits behind it, or is
in what follows. -/
private theorem percent_of_encodeOctet_append {rest before after : Bytes}
    (h : encodeOctet b ++ rest = before ++ octet '%' :: after) :
    (∃ high low, after =
      octet (Hexadecimal.upper high) :: octet (Hexadecimal.upper low) :: rest) ∨
      ∃ before', rest = before' ++ octet '%' :: after := by
  unfold encodeOctet at h
  split at h
  · next plain =>
    cases before with
    | nil => exact absurd (List.cons.inj h).1 (ne_percent_of_isPlain plain)
    | cons o before => exact .inr ⟨before, (List.cons.inj h).2⟩
  · match before with
    | [] =>
      obtain ⟨-, rfl⟩ := List.cons.inj h
      exact .inl ⟨_, _, rfl⟩
    | [_] =>
      simp only [List.cons_append, List.nil_append, List.cons.injEq] at h
      exact absurd h.2.1 (ne_percent_of_isPlain (isPlain_upper _))
    | [_, _] =>
      simp only [List.cons_append, List.nil_append, List.cons.injEq] at h
      exact absurd h.2.2.1 (ne_percent_of_isPlain (isPlain_upper _))
    | _ :: _ :: _ :: before =>
      simp only [List.cons_append, List.nil_append, List.cons.injEq] at h
      exact .inr ⟨before, h.2.2.2⟩

private theorem digits_of_percent_octet {bs before after : Bytes}
    (h : bs.flatMap encodeOctet = before ++ octet '%' :: after) :
    ∃ high low rest, after =
      octet (Hexadecimal.upper high) :: octet (Hexadecimal.upper low) :: rest := by
  induction bs generalizing before with
  | nil => simp at h
  | cons b bs ih =>
    rw [List.flatMap_cons] at h
    obtain ⟨high, low, digits⟩ | ⟨before', later⟩ := percent_of_encodeOctet_append h
    · exact ⟨high, low, _, digits⟩
    · exact ih later

private theorem lt_of_isPlain (h : isPlain b = true) : b.toNat < 0x80 := by
  simp only [isPlain, Bool.or_eq_true, Bool.and_eq_true, decide_eq_true_eq, beq_iff_eq] at h
  rcases h with ((((((h | h) | h) | h) | h) | h) | h)
  · omega
  · omega
  · omega
  all_goals
    rw [h]
    decide

theorem lt_of_mem_encodeOctets {bs : Bytes} {o : UInt8} (h : o ∈ bs.flatMap encodeOctet) :
    o.toNat < 0x80 := by
  obtain ⟨b, -, ho⟩ := List.mem_flatMap.1 h
  obtain plain | rfl := mem_encodeOctet ho
  · exact lt_of_isPlain plain
  · decide

/-! ## Decoding -/

private theorem decodeOctets_plain (h : isPlain b = true) (rest : Bytes) :
    decodeOctets (b :: rest) = b :: decodeOctets rest := by
  have percent : b ≠ octet '%' := ne_percent_of_isPlain h
  have plus : b ≠ octet '+' := by
    rintro rfl
    simp [show isPlain (octet '+') = false by decide] at h
  match rest with
  | [] => rw [decodeOctets.eq_2 _ _ (by simp), plain, if_neg plus]
  | [c] => rw [decodeOctets.eq_2 _ _ (by simp), plain, if_neg plus]
  | c :: d :: rest => rw [decodeOctets, if_neg percent, plain, if_neg plus]

private theorem decodeOctets_escaped (b : UInt8) (rest : Bytes) :
    decodeOctets (octet '%' :: octet (Hexadecimal.upper (Hexadecimal.high b)) ::
      octet (Hexadecimal.upper (Hexadecimal.low b)) :: rest) = b :: decodeOctets rest := by
  rw [decodeOctets, if_pos rfl, pair?, Hexadecimal.value?_upper, Hexadecimal.value?_upper]
  simp only [Hexadecimal.octetOf_high_low]

private theorem decodeOctets_encodeOctet (b : UInt8) (rest : Bytes) :
    decodeOctets (encodeOctet b ++ rest) = b :: decodeOctets rest := by
  unfold encodeOctet
  split
  · next h => exact decodeOctets_plain h rest
  · exact decodeOctets_escaped b rest

theorem decodeOctets_encodeOctets (bs : Bytes) : decodeOctets (bs.flatMap encodeOctet) = bs := by
  induction bs with
  | nil => rfl
  | cons b bs ih => rw [List.flatMap_cons, decodeOctets_encodeOctet, ih]

/-- The octets of a text are decoded as they were encoded. -/
theorem decodeOctets_encode (s : String) :
    decodeOctets (Utf8.encode (encode s)) = Utf8.encode s := by
  rw [encode, Utf8.encode_decodeLossy_of_lt fun _ => lt_of_mem_encodeOctets,
    decodeOctets_encodeOctets]

/-- Decoding undoes encoding. -/
theorem decode_encode (s : String) : decode (encode s) = s := by
  rw [decode, decodeOctets_encode, Utf8.decodeLossy_encode]

/-! ## Characters -/

theorem toList_encode (s : String) :
    (encode s).toList = ((Utf8.encode s).flatMap encodeOctet).map fun b => Char.ofNat b.toNat := by
  rw [encode, Utf8.decodeLossy, String.toList_ofList,
    Utf8.decodeCharsLossy_of_lt fun _ => lt_of_mem_encodeOctets]

private theorem ofNat_of_isPlain : ∀ n < 0x80, isPlain (UInt8.ofNat n) = true →
    (Char.ofNat n).isAlphanum = true ∨ Char.ofNat n ∈ ['-', '_', '.', '~'] := by
  decide

/-- A character of an encoded text is a letter or a digit, one of four marks, or a percent sign. -/
theorem mem_encode {c : Char} (h : c ∈ (encode s).toList) :
    c.isAlphanum = true ∨ c ∈ ['-', '_', '.', '~', '%'] := by
  rw [toList_encode] at h
  obtain ⟨o, ho, rfl⟩ := List.mem_map.1 h
  have small := lt_of_mem_encodeOctets ho
  obtain ⟨b, -, ho⟩ := List.mem_flatMap.1 ho
  obtain plain | rfl := mem_encodeOctet ho
  · rw [← UInt8.ofNat_toNat (x := o)] at plain
    exact (ofNat_of_isPlain _ small plain).imp_right fun mark =>
      List.mem_append_left ['%'] mark
  · exact .inr (by decide)

/-- Behind each percent sign of an encoded text there are two digits. -/
theorem digits_of_percent {before after : List Char}
    (h : (encode s).toList = before ++ '%' :: after) :
    ∃ high low rest, after = Hexadecimal.upper high :: Hexadecimal.upper low :: rest := by
  rw [toList_encode] at h
  obtain ⟨bs, cs, octets, -, signs⟩ := List.map_eq_append_iff.1 h
  obtain ⟨o, os, rfl, sign, rfl⟩ := List.map_eq_cons_iff.1 signs
  have small {b : UInt8} (hb : b ∈ bs ++ o :: os) : b.toNat < 0x80 :=
    lt_of_mem_encodeOctets (octets ▸ hb)
  have o_eq : o = octet '%' := by
    rw [octet, ← sign, Utf8.toNat_ofNat_of_lt (small (by simp)), UInt8.ofNat_toNat]
  obtain ⟨high, low, rest, rfl⟩ := digits_of_percent_octet (o_eq ▸ octets)
  refine ⟨high, low, rest.map fun b => Char.ofNat b.toNat, ?_⟩
  rw [List.map_cons, List.map_cons, ofNat_octet_upper, ofNat_octet_upper]

/-- A character that is not plain, and no percent sign, is not in an encoded text. -/
theorem notMem_encode {c : Char} (plain : isPlain (octet c) = false) (percent : c ≠ '%') :
    c ∉ (encode s).toList := by
  rw [toList_encode]
  intro h
  obtain ⟨o, ho, rfl⟩ := List.mem_map.1 h
  have small := lt_of_mem_encodeOctets ho
  obtain ⟨b, -, ho⟩ := List.mem_flatMap.1 ho
  -- The character is its octet again, and that is plain or a percent sign.
  rw [octet, Utf8.toNat_ofNat_of_lt small, UInt8.ofNat_toNat] at plain
  obtain h | rfl := mem_encodeOctet ho
  · simp [h] at plain
  · exact percent rfl

/-- A text of plain characters is its own encoding. -/
theorem encode_eq_self (h : ∀ c ∈ s.toList, c.toNat < 0x80 ∧ isPlain (octet c) = true) :
    encode s = s := by
  have octets : ∀ cs : List Char, (∀ c ∈ cs, c.toNat < 0x80 ∧ isPlain (octet c) = true) →
      ((Utf8.encodeChars cs).flatMap encodeOctet).map (fun b => Char.ofNat b.toNat) = cs := by
    intro cs hcs
    induction cs with
    | nil => rfl
    | cons c cs ih =>
      obtain ⟨small, plain⟩ := hcs c List.mem_cons_self
      have char : Char.ofNat (octet c).toNat = c := by
        rw [octet, UInt8.toNat_ofNat_of_lt' (by simp only [UInt8.size]; omega), Char.ofNat_toNat]
      have one : Utf8.encodeChar c = [octet c] := by rw [Utf8.encodeChar, if_pos small]; rfl
      have others := ih fun c' hc' => hcs c' (List.mem_cons_of_mem _ hc')
      rw [Utf8.encodeChars] at others
      rw [Utf8.encodeChars, List.flatMap_cons, List.flatMap_append, List.map_append, others, one,
        List.flatMap_singleton, encodeOctet, if_pos plain, List.map_singleton, char,
        List.singleton_append]
  rw [← String.toList_inj, toList_encode, Utf8.encode, octets _ h]

/-- The check that a text is made of plain characters can be carried out. -/
theorem encode_of_all (h : s.toList.all (fun c => c.toNat < 0x80 && isPlain (octet c)) = true) :
    encode s = s := by
  refine encode_eq_self fun c hc => ?_
  simpa using List.all_eq_true.1 h c hc

/-- Only the empty text has an empty encoding. -/
theorem encode_eq_nil_iff : (encode s).toList = [] ↔ s = "" := by
  have empty : (encode "").toList = [] := by
    rw [toList_encode]
    rfl
  constructor
  · intro h
    rw [← empty, String.toList_inj] at h
    rw [← decode_encode s, h, decode_encode]
  · rintro rfl
    exact empty

end VersionedStore.Percent
