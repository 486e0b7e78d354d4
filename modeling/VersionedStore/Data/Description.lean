import VersionedStore.Data.Decimal
import VersionedStore.Data.Quoted

/-!
# Descriptions

One-line descriptions for diagnostics: a record is its name with its fields in braces, a list
is in brackets, and a value that may be missing is `None` or `Some` of it.

## Main definitions

* `Description` — the parts that a description is made of
* `Description.text` — the line
-/

namespace VersionedStore

/-- The parts that a description is made of. -/
inductive Description
  /-- A word that stands for itself. -/
  | word (w : String)
  /-- A number. -/
  | number (n : Nat)
  /-- A text in quotes. -/
  | quoted (s : String)
  /-- A list. -/
  | list (parts : List Description)
  /-- A value under a name. -/
  | wrapped (name : String) (part : Description)
  /-- A record with its fields. -/
  | record (name : String) (fields : List (String × Description))

namespace Description

/-- A truth value. -/
def bool (b : Bool) : Description := word (if b then "true" else "false")

/-- A value that may be missing. -/
def option {α : Type} (describe : α → Description) : Option α → Description
  | none => word "None"
  | some a => wrapped "Some" (describe a)

/-- A list of octets. -/
def bytes (bs : Bytes) : Description := list (bs.map fun b => number b.toNat)

/-- Words with a comma between them. -/
def commas (words : List String) : String := ", ".intercalate words

mutual

/-- The line of a description. -/
def text : Description → String
  | word w => w
  | number n => Decimal.text n
  | quoted s => Quoted.text s
  | list parts => "[" ++ commas (texts parts) ++ "]"
  | wrapped name part => name ++ "(" ++ part.text ++ ")"
  | record name fields => name ++ " \x7b " ++ commas (fieldTexts fields) ++ " \x7d"

/-- The lines of the parts of a list. -/
def texts : List Description → List String
  | [] => []
  | d :: ds => d.text :: texts ds

/-- The fields of a record, each with its name. -/
def fieldTexts : List (String × Description) → List String
  | [] => []
  | (name, d) :: fs => (name ++ ": " ++ d.text) :: fieldTexts fs

end

end Description

end VersionedStore
