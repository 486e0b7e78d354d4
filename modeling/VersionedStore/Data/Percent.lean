import VersionedStore.Data.Hexadecimal
import VersionedStore.Data.Utf8

/-!
# Percent encoding

Parts of a path and of a query travel with all but the plainest octets written as a percent
sign and two hexadecimal digits.

## Main definitions

* `Percent.encode` — the encoding of a text
* `Percent.decode` — the text of an encoding; a plus sign stands for a space, and a percent
  sign without two digits stands for itself
-/

namespace VersionedStore.Percent

/-- Octets that stand for themselves: letters, digits, and the four signs `-`, `_`, `.`, `~`. -/
def isPlain (b : UInt8) : Bool :=
  let n := b.toNat
  (97 ≤ n && n < 123) || (65 ≤ n && n < 91) || (48 ≤ n && n < 58) ||
    b == octet '-' || b == octet '_' || b == octet '.' || b == octet '~'

/-- The encoding of one octet. -/
def encodeOctet (b : UInt8) : Bytes :=
  if isPlain b then [b]
  else
    [octet '%', octet (Hexadecimal.upper (Hexadecimal.high b)),
      octet (Hexadecimal.upper (Hexadecimal.low b))]

/-- The encoding of a text. -/
def encode (s : String) : String := Utf8.decodeLossy ((Utf8.encode s).flatMap encodeOctet)

/-- The octet that two octets after a percent sign stand for: two hexadecimal digits, or a plus
sign and one. -/
def pair? (a b : UInt8) : Option UInt8 :=
  match Hexadecimal.value? a, Hexadecimal.value? b with
  | some h, some l => some (Hexadecimal.octetOf h l)
  | none, some l => if a = octet '+' then some (Hexadecimal.octetOf 0 l) else none
  | _, none => none

/-- An octet that stands alone: a plus sign stands for a space. -/
def plain (b : UInt8) : UInt8 := if b = octet '+' then octet ' ' else b

/-- The octets of an encoding. -/
def decodeOctets : Bytes → Bytes
  | b₀ :: b₁ :: b₂ :: rest =>
    if b₀ = octet '%' then
      match pair? b₁ b₂ with
      | some b => b :: decodeOctets rest
      -- The two octets after a sign that stands for itself are looked at anew.
      | none => b₀ :: decodeOctets (b₁ :: b₂ :: rest)
    else plain b₀ :: decodeOctets (b₁ :: b₂ :: rest)
  | b :: rest => plain b :: decodeOctets rest
  | [] => []

/-- The text of an encoding. -/
def decode (s : String) : String := Utf8.decodeLossy (decodeOctets (Utf8.encode s))

end VersionedStore.Percent
