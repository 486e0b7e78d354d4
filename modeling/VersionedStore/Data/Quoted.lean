import VersionedStore.Data.Hexadecimal
import VersionedStore.Data.Hidden

/-!
# Quoted texts

In descriptions a text stands in quotes. Quotes, backslashes and line ends are written with a
backslash, and other characters that would not show by their number.

## Main definitions

* `Quoted.piece` — a character inside quotes
* `Quoted.text` — a text in quotes
-/

namespace VersionedStore.Quoted

/-- A character inside quotes. -/
def piece (c : Char) : List Char :=
  if c = '"' then ['\\', '"']
  else if c = '\\' then ['\\', '\\']
  else if c = '\n' then ['\\', 'n']
  else if c = '\r' then ['\\', 'r']
  else if c = '\t' then ['\\', 't']
  else if c.toNat = 0 then ['\\', '0']
  else if Hidden.contains c then
    ['\\', 'u', '\x7b'] ++ (Hexadecimal.digits c.toNat).map Hexadecimal.lower ++ ['\x7d']
  else [c]

def text (s : String) : String := String.ofList ('"' :: s.toList.flatMap piece ++ ['"'])

end VersionedStore.Quoted
