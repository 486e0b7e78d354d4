import Mathlib.Data.Char
import VersionedStore.Data.Utf8

/-!
# Decoding undoes encoding

Every text is read back from its octets, by the strict reader and by the lenient one. Both
readers take one character at a time, so one statement about `Utf8.next` carries them.

## Main results

* `next_encodeChar` — the octets of a character are read as that character
* `decode?_encode`, `decodeLossy_encode` — the two readers undo the encoding
* `encode_decodeLossy_of_lt` — octets below 0x80 are the encoding of what is read off them
-/

namespace VersionedStore.Utf8

variable {c : Char} {rest : Bytes}

/-! ## One character -/

private theorem toNat_bounds (c : Char) :
    c.toNat < 0xd800 ∨ (0xdfff < c.toNat ∧ c.toNat < 0x110000) := by
  have valid := c.valid
  simpa [UInt32.isValidChar, Nat.isValidChar] using valid

private theorem lead?_one {n : Nat} (h : n < 0x80) :
    lead? (UInt8.ofNat n) = some ⟨n, 0, 0x80, 0xbf⟩ := by
  have hn : (UInt8.ofNat n).toNat = n := by simp; omega
  simp only [lead?, hn, h, ↓reduceIte]

private theorem lead?_two {n : Nat} (h : 0x80 ≤ n) (h' : n < 0x800) :
    lead? (UInt8.ofNat (0xc0 + n / 0x40)) = some ⟨n / 0x40, 1, 0x80, 0xbf⟩ := by
  have hn : (UInt8.ofNat (0xc0 + n / 0x40)).toNat = 0xc0 + n / 0x40 := by simp; omega
  simp only [lead?, hn]
  rw [if_neg (by omega), if_neg (by omega), if_pos (by omega), Nat.add_sub_cancel_left]

private theorem lead?_three {n : Nat} (h' : n < 0x10000) :
    lead? (UInt8.ofNat (0xe0 + n / 0x1000)) =
      some ⟨n / 0x1000, 2, if n / 0x1000 = 0 then 0xa0 else 0x80,
        if n / 0x1000 = 0xd then 0x9f else 0xbf⟩ := by
  have hn : (UInt8.ofNat (0xe0 + n / 0x1000)).toNat = 0xe0 + n / 0x1000 := by simp; omega
  simp only [lead?, hn]
  rw [if_neg (by omega), if_neg (by omega), if_neg (by omega), if_pos (by omega),
    Nat.add_sub_cancel_left]
  congr 2 <;> split <;> split <;> omega

private theorem lead?_four {n : Nat} (h' : n < 0x110000) :
    lead? (UInt8.ofNat (0xf0 + n / 0x40000)) =
      some ⟨n / 0x40000, 3, if n / 0x40000 = 0 then 0x90 else 0x80,
        if n / 0x40000 = 4 then 0x8f else 0xbf⟩ := by
  have hn : (UInt8.ofNat (0xf0 + n / 0x40000)).toNat = 0xf0 + n / 0x40000 := by simp; omega
  simp only [lead?, hn]
  rw [if_neg (by omega), if_neg (by omega), if_neg (by omega), if_neg (by omega),
    if_pos (by omega), Nat.add_sub_cancel_left]
  congr 2 <;> split <;> split <;> omega

/-- An octet of six bits that fits is read onto the bits before it. -/
private theorem follow_succ {bits n least greatest m : Nat} (hm : m < 0x40)
    (hl : least ≤ 0x80 + m) (hg : 0x80 + m ≤ greatest) :
    follow bits (n + 1) least greatest (UInt8.ofNat (0x80 + m) :: rest) =
      follow (bits * 0x40 + m) n 0x80 0xbf rest := by
  have hn : (UInt8.ofNat (0x80 + m)).toNat = 0x80 + m := by simp; omega
  simp only [follow, hn]
  rw [if_pos ⟨hl, hg⟩, Nat.add_sub_cancel_left]

/-- The octets of a character start with one from which, with those that follow it, the
character is read; whatever comes after them is left. -/
theorem next_encodeChar (c : Char) :
    ∃ b bs, encodeChar c = b :: bs ∧ ∀ rest, next b (bs ++ rest) = (some c, rest) := by
  -- The four lengths of an encoding, each with the range of code points that it is for. A surrogate
  -- or a number that is too large would fail at the second octet, but a character is neither.
  have bounds := toNat_bounds c
  have back : Char.ofNat c.toNat = c := Char.ofNat_toNat c
  unfold encodeChar
  generalize c.toNat = n at bounds back
  simp only
  split
  · next h =>
    refine ⟨_, [], rfl, fun rest => ?_⟩
    simp [next, lead?_one h, follow, back]
  split
  · next h h' =>
    refine ⟨_, _, rfl, fun rest => ?_⟩
    rw [next, lead?_two (by omega) h']
    simp only [List.cons_append, List.nil_append]
    rw [follow_succ (by omega) (by omega) (by omega), follow,
      show n / 0x40 * 0x40 + n % 0x40 = n by omega, Option.map_some, back]
  split
  · next h h' h'' =>
    refine ⟨_, _, rfl, fun rest => ?_⟩
    rw [next, lead?_three h'']
    simp only [List.cons_append, List.nil_append]
    rw [follow_succ (by omega) (by split <;> omega) (by split <;> omega),
      follow_succ (by omega) (by omega) (by omega), follow,
      show (n / 0x1000 * 0x40 + n / 0x40 % 0x40) * 0x40 + n % 0x40 = n by omega,
      Option.map_some, back]
  · next h h' h'' =>
    refine ⟨_, _, rfl, fun rest => ?_⟩
    rw [next, lead?_four (by omega)]
    simp only [List.cons_append, List.nil_append]
    rw [follow_succ (by omega) (by split <;> omega) (by split <;> omega),
      follow_succ (by omega) (by omega) (by omega),
      follow_succ (by omega) (by omega) (by omega), follow,
      show ((n / 0x40000 * 0x40 + n / 0x1000 % 0x40) * 0x40 + n / 0x40 % 0x40) * 0x40 +
        n % 0x40 = n by omega, Option.map_some, back]

/-! ## Texts -/

theorem decodeChars?_encodeChar (c : Char) (rest : Bytes) :
    decodeChars? (encodeChar c ++ rest) = (decodeChars? rest).map (c :: ·) := by
  obtain ⟨b, bs, hc, hnext⟩ := next_encodeChar c
  rw [hc, List.cons_append, decodeChars?, hnext rest]

theorem decodeCharsLossy_encodeChar (c : Char) (rest : Bytes) :
    decodeCharsLossy (encodeChar c ++ rest) = c :: decodeCharsLossy rest := by
  obtain ⟨b, bs, hc, hnext⟩ := next_encodeChar c
  rw [hc, List.cons_append, decodeCharsLossy, hnext rest]
  rfl

theorem decodeChars?_encodeChars (cs : List Char) : decodeChars? (encodeChars cs) = some cs := by
  induction cs with
  | nil => rw [encodeChars, List.flatMap_nil, decodeChars?]
  | cons c cs ih =>
    rw [encodeChars, List.flatMap_cons, decodeChars?_encodeChar]
    exact congrArg _ ih

theorem decodeCharsLossy_encodeChars (cs : List Char) :
    decodeCharsLossy (encodeChars cs) = cs := by
  induction cs with
  | nil => rw [encodeChars, List.flatMap_nil, decodeCharsLossy]
  | cons c cs ih =>
    rw [encodeChars, List.flatMap_cons, decodeCharsLossy_encodeChar]
    exact congrArg _ ih

/-- The strict reader undoes the encoding of every text. -/
theorem decode?_encode (s : String) : decode? (encode s) = some s := by
  rw [decode?, encode, decodeChars?_encodeChars, Option.map_some, String.ofList_toList]

/-- The lenient reader undoes the encoding of every text. -/
theorem decodeLossy_encode (s : String) : decodeLossy (encode s) = s := by
  rw [decodeLossy, encode, decodeCharsLossy_encodeChars, String.ofList_toList]

/-! ## Octets below 0x80 -/

theorem toNat_ofNat_of_lt {n : Nat} (h : n < 0x80) : (Char.ofNat n).toNat = n := by
  have valid : n.isValidChar := .inl (by omega)
  rw [Char.ofNat, dif_pos valid]
  rfl

/-- An octet below 0x80 is a character of its own. -/
theorem encodeChar_ofNat {b : UInt8} (h : b.toNat < 0x80) :
    encodeChar (Char.ofNat b.toNat) = [b] := by
  rw [encodeChar, toNat_ofNat_of_lt h, if_pos h, UInt8.ofNat_toNat]

/-- Octets below 0x80 are the encoding of the characters that they are one by one. -/
theorem encodeChars_map_ofNat {bs : Bytes} (h : ∀ b ∈ bs, b.toNat < 0x80) :
    encodeChars (bs.map fun b => Char.ofNat b.toNat) = bs := by
  induction bs with
  | nil => rfl
  | cons b bs ih =>
    have first := encodeChar_ofNat (h b List.mem_cons_self)
    have others := ih fun b' hb' => h b' (List.mem_cons_of_mem _ hb')
    rw [encodeChars] at others
    rw [encodeChars, List.map_cons, List.flatMap_cons, first, others, List.singleton_append]

theorem decodeCharsLossy_of_lt {bs : Bytes} (h : ∀ b ∈ bs, b.toNat < 0x80) :
    decodeCharsLossy bs = bs.map fun b => Char.ofNat b.toNat := by
  -- Read backwards: the octets are the encoding of these characters, which is undone.
  have back := decodeCharsLossy_encodeChars (bs.map fun b => Char.ofNat b.toNat)
  rwa [encodeChars_map_ofNat h] at back

/-- Octets below 0x80 are encoded as they were decoded. -/
theorem encode_decodeLossy_of_lt {bs : Bytes} (h : ∀ b ∈ bs, b.toNat < 0x80) :
    encode (decodeLossy bs) = bs := by
  rw [decodeLossy, decodeCharsLossy_of_lt h, encode, String.toList_ofList,
    encodeChars_map_ofNat h]

end VersionedStore.Utf8
