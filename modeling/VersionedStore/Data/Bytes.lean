/-!
# Octet strings

Everything on the wire is a list of octets: bulk bodies, message bodies, documents as a
client hands them in.

## Main definitions

* `Bytes` — a list of octets
* `Bytes.isBlank` — nothing but white space
* `octet` — the octet of an ASCII character
-/

namespace VersionedStore

/-- A list of octets. -/
abbrev Bytes := List UInt8

/-- The octet of an ASCII character. -/
def octet (c : Char) : UInt8 := UInt8.ofNat c.toNat

namespace Bytes

/-- The white space of a bulk line: space, tab, line feed, form feed, carriage return. -/
def isSpace (b : UInt8) : Bool :=
  b == octet ' ' || b == octet '\t' || b == octet '\n' || b == 0x0c || b == octet '\r'

/-- A line that holds nothing but white space. -/
def isBlank (line : Bytes) : Bool := line.all isSpace

end Bytes

end VersionedStore
