import VersionedStore.Data.Bytes

/-!
# UTF-8

Characters travel as one to four octets. `Utf8.next` reads one character off a list of
octets or, where no character starts, drops the longest stretch that could have begun
one; the strict reader refuses such a stretch and the lenient reader puts U+FFFD in its
place.

## Main definitions

* `Utf8.encodeChar`, `Utf8.encode` — the octets of a character, of a text
* `Utf8.next` — the first character of a non-empty list of octets
* `Utf8.decode?` — the text, if every stretch is a character
* `Utf8.decodeLossy` — the text, with U+FFFD for every stretch that is none
-/

namespace VersionedStore.Utf8

/-- The octets of one character. -/
def encodeChar (c : Char) : Bytes :=
  let n := c.toNat
  if n < 0x80 then [UInt8.ofNat n]
  else if n < 0x800 then [UInt8.ofNat (0xc0 + n / 0x40), UInt8.ofNat (0x80 + n % 0x40)]
  else if n < 0x10000 then
    [UInt8.ofNat (0xe0 + n / 0x1000), UInt8.ofNat (0x80 + n / 0x40 % 0x40),
      UInt8.ofNat (0x80 + n % 0x40)]
  else
    [UInt8.ofNat (0xf0 + n / 0x40000), UInt8.ofNat (0x80 + n / 0x1000 % 0x40),
      UInt8.ofNat (0x80 + n / 0x40 % 0x40), UInt8.ofNat (0x80 + n % 0x40)]

/-- The octets of a list of characters. -/
def encodeChars (cs : List Char) : Bytes := cs.flatMap encodeChar

/-- The octets of a text. -/
def encode (s : String) : Bytes := encodeChars s.toList

/-- What a lead octet announces: the high bits of the character, the number of octets that
follow, and the bounds of the first of these. The bounds rule out overlong forms, surrogates
and values above U+10FFFF. -/
structure Lead where
  /-- The bits that the lead octet carries. -/
  bits : Nat
  /-- The number of octets that follow. -/
  following : Nat
  /-- The least value of the octet after it. -/
  least : Nat
  /-- The greatest value of the octet after it. -/
  greatest : Nat

/-- The announcement of a lead octet; `none` for an octet that starts no character. -/
def lead? (b : UInt8) : Option Lead :=
  let n := b.toNat
  if n < 0x80 then some ⟨n, 0, 0x80, 0xbf⟩
  else if n < 0xc2 then none
  else if n < 0xe0 then some ⟨n - 0xc0, 1, 0x80, 0xbf⟩
  else if n < 0xf0 then
    some ⟨n - 0xe0, 2, if n = 0xe0 then 0xa0 else 0x80, if n = 0xed then 0x9f else 0xbf⟩
  else if n < 0xf5 then
    some ⟨n - 0xf0, 3, if n = 0xf0 then 0x90 else 0x80, if n = 0xf4 then 0x8f else 0xbf⟩
  else none

/-- Reads `following` octets of six bits each onto `bits`, the first within the bounds. Stops
before the first octet that does not fit. -/
def follow (bits : Nat) : (following least greatest : Nat) → Bytes → Option Nat × Bytes
  | 0, _, _, rest => (some bits, rest)
  | _ + 1, _, _, [] => (none, [])
  | n + 1, least, greatest, b :: rest =>
    if least ≤ b.toNat ∧ b.toNat ≤ greatest then
      -- Only the first octet after the lead has bounds of its own.
      follow (bits * 0x40 + (b.toNat - 0x80)) n 0x80 0xbf rest
    else (none, b :: rest)

/-- The character at the front of `b :: rest`, and what follows it. Where none starts, `none`
and what follows the longest stretch that could have begun one. -/
def next (b : UInt8) (rest : Bytes) : Option Char × Bytes :=
  match lead? b with
  | none => (none, rest)
  | some lead =>
    let read := follow lead.bits lead.following lead.least lead.greatest rest
    (read.1.map Char.ofNat, read.2)

theorem length_follow_le (bits n least greatest : Nat) (bs : Bytes) :
    (follow bits n least greatest bs).2.length ≤ bs.length := by
  induction bs generalizing bits n least greatest with
  | nil => cases n <;> simp [follow]
  | cons b rest ih =>
    cases n with
    | zero => simp [follow]
    | succ n =>
      unfold follow
      split
      · exact Nat.le_trans (ih ..) (by simp)
      · simp

theorem length_next_le (b : UInt8) (rest : Bytes) : (next b rest).2.length ≤ rest.length := by
  unfold next
  split
  · simp
  · exact length_follow_le ..

/-- The characters that the octets stand for, if every stretch of them is a character. -/
def decodeChars? : Bytes → Option (List Char)
  | [] => some []
  | b :: rest =>
    match (next b rest).1 with
    | none => none
    | some c => (decodeChars? (next b rest).2).map (c :: ·)
termination_by bs => bs.length
decreasing_by
  have := length_next_le b rest
  simp only [List.length_cons]; omega

/-- The character that stands for octets which are no character. -/
def replacement : Char := Char.ofNat 0xfffd

/-- The characters that the octets stand for, with `replacement` for every stretch that is no
character. -/
def decodeCharsLossy : Bytes → List Char
  | [] => []
  | b :: rest => ((next b rest).1.getD replacement) :: decodeCharsLossy (next b rest).2
termination_by bs => bs.length
decreasing_by
  have := length_next_le b rest
  simp only [List.length_cons]; omega

/-- The text that the octets stand for, if they are well formed. -/
def decode? (bs : Bytes) : Option String := (decodeChars? bs).map String.ofList

/-- The text that the octets stand for, with U+FFFD for every stretch that is no character. -/
def decodeLossy (bs : Bytes) : String := String.ofList (decodeCharsLossy bs)

end VersionedStore.Utf8
