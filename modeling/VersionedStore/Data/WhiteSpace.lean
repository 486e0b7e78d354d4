/-!
# White space

The characters with the Unicode property `White_Space`.

## Main definitions

* `WhiteSpace.contains` — the property
* `WhiteSpace.trim` — a text without white space at its ends
-/

namespace VersionedStore.WhiteSpace

/-- The ranges of the property, ends included. -/
def ranges : List (Nat × Nat) :=
  [(0x09, 0x0d), (0x20, 0x20), (0x85, 0x85), (0xa0, 0xa0), (0x1680, 0x1680), (0x2000, 0x200a),
    (0x2028, 0x2029), (0x202f, 0x202f), (0x205f, 0x205f), (0x3000, 0x3000)]

/-- Whether a character is white space. -/
def contains (c : Char) : Bool := ranges.any fun r => r.1 ≤ c.toNat && c.toNat ≤ r.2

/-- The characters between the white space at the ends. -/
def trimChars (cs : List Char) : List Char :=
  ((cs.dropWhile contains).reverse.dropWhile contains).reverse

/-- The text between the white space at its ends. -/
def trim (s : String) : String := String.ofList (trimChars s.toList)

end VersionedStore.WhiteSpace
