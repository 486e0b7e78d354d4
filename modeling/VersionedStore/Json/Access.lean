import VersionedStore.Data.Hexadecimal
import VersionedStore.Json.Value

/-!
# Members of objects

Settings come as JSON objects of which any member may be missing. What is missing, null or of
another kind counts as not given, or as a default.

Octets are given as a text, or as an object whose member `hex` has their hexadecimal digits.

## Main definitions

* `Json.Value.field?` — a member that is not null
* `Json.Value.text?`, `Json.Value.natural?`, `Json.Value.flag`, `Json.Value.elements`,
  `Json.Value.octets?` — members by kind
-/

namespace VersionedStore.Json.Value

/-- A member of an object that is not null. -/
def field? (v : Value) (key : String) : Option Value :=
  match v.member? key with
  | some null => none
  | m => m

/-- A member of an object; null if there is none. -/
def field (v : Value) (key : String) : Value := (v.member? key).getD null

/-! ### Values by kind -/

def asText : Value → String
  | string s => s
  | _ => ""

/-- The whole number that a value is. -/
def asNat : Value → Nat
  | number (.unsigned n) => n.toNat
  | _ => 0

/-- The elements of an array. -/
def asList : Value → List Value
  | array vs => vs
  | _ => []

/-- The octets of pairs of hexadecimal digits. -/
def ofDigits : List Char → Bytes
  | a :: b :: rest =>
    let digit (c : Char) : Fin 16 := (Hexadecimal.value? (octet c)).getD 0
    Hexadecimal.octetOf (digit a) (digit b) :: ofDigits rest
  | _ => []

/-- The octets that a value stands for. -/
def asOctets : Value → Bytes
  | string s => Utf8.encode s
  | v => ofDigits (v.field "hex").asText.toList

/-! ### Members by kind -/

/-- A member that is a text. -/
def text? (v : Value) (key : String) : Option String := (v.field? key).map asText

/-- A member that is a text, or a default. -/
def text (v : Value) (key : String) (default : String := "") : String := (v.text? key).getD default

/-- A member that is a whole number. -/
def natural? (v : Value) (key : String) : Option Nat := (v.field? key).map asNat

/-- A member that is a whole number, or a default. -/
def natural (v : Value) (key : String) (default : Nat := 0) : Nat := (v.natural? key).getD default

/-- A member that is a whole number of 64 bits. -/
def word? (v : Value) (key : String) : Option UInt64 := (v.natural? key).map UInt64.ofNat

/-- A member that is a truth value, or a default. -/
def flag (v : Value) (key : String) (default : Bool := false) : Bool :=
  match v.field? key with
  | some (bool b) => b
  | _ => default

/-- The elements of a member that is an array. -/
def elements (v : Value) (key : String) : List Value := (v.field key).asList

/-- A member that stands for octets. -/
def octets? (v : Value) (key : String) : Option Bytes := (v.field? key).map asOctets

/-- A member that stands for octets; none if it is missing. -/
def octets (v : Value) (key : String) : Bytes := (v.octets? key).getD []

end VersionedStore.Json.Value
