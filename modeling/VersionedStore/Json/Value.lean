import VersionedStore.Data.Table
import VersionedStore.Json.Number
import VersionedStore.Json.Text.Reader

/-!
# JSON values

What a JSON text stands for: strings are texts, numbers have a kind and a value, and the
members of an object are ordered by key, each key once. Reading a value asks more than the
form: escapes must pair up to characters, octets must be UTF-8, floats must be in range, and
arrays and objects must not nest too deeply.

## Main definitions

* `Json.Symbol.meaning?` — the text that the pieces of a string stand for
* `Json.Value` — the values
* `Json.Value.ofText?`, `Json.Value.toText` — from and to texts
* `Json.Value.parse?`, `Json.Value.compact` — from and to octets
* `Json.Value.same` — equality, with floats compared by value
-/

namespace VersionedStore.Json

/-! ### Strings -/

namespace Symbol

/-- The character of a pair of UTF-16 units, if they are a high and a low surrogate. -/
def pairChar? (high low : UInt16) : Option Char :=
  let h := high.toNat
  let l := low.toNat
  if 0xd800 ≤ h ∧ h < 0xdc00 ∧ 0xdc00 ≤ l ∧ l < 0xe000 then
    some (Char.ofNat (0x10000 + (h - 0xd800) * 0x400 + (l - 0xdc00)))
  else none

/-- Whether a UTF-16 unit is half of a pair. -/
def isSurrogate (u : UInt16) : Bool := 0xd800 ≤ u.toNat && u.toNat < 0xe000

/-- The octets that the pieces of a string stand for. Two escaped surrogates in a row are one
character; one that stands alone is none. -/
def octets? : List Symbol → Option Bytes
  | [] => some []
  | plain b :: rest => (octets? rest).map (b :: ·)
  | unit u :: rest =>
    if isSurrogate u then
      match rest with
      | unit v :: rest =>
        match pairChar? u v, octets? rest with
        | some c, some bs => some (Utf8.encodeChar c ++ bs)
        | _, _ => none
      | _ => none
    else (octets? rest).map (Utf8.encodeChar (Char.ofNat u.toNat) ++ ·)

/-- The text that the pieces of a string stand for. -/
def meaning? (s : List Symbol) : Option String :=
  match octets? s with
  | none => none
  | some bs => Utf8.decode? bs

end Symbol

/-! ### Values -/

/-- A JSON value. -/
inductive Value
  | null
  | bool (b : Bool)
  | number (n : Number)
  | string (s : String)
  | array (elements : List Value)
  /-- An object, its members in ascending order of the keys. -/
  | object (members : List (String × Value))

instance : Inhabited Value := ⟨.null⟩

/-- How many arrays and objects may be nested in a text that is read. -/
def nestingLimit : Nat := 127

namespace Value

mutual

/-- The value that a text stands for, with at most `level` arrays and objects nested in it. -/
def ofText? (level : Nat) : Text → Option Value
  | .null => some null
  | .bool b => some (bool b)
  | .number l => (Number.ofLiteral? l).map number
  | .string s => (Symbol.meaning? s).map string
  | .array elements =>
    match level with
    | 0 => none
    | level + 1 => (ofElements? level elements).map array
  | .object members =>
    match level with
    | 0 => none
    | level + 1 => (ofMembers? level [] members).map object

/-- The values of the elements of an array. -/
def ofElements? (level : Nat) : List Text → Option (List Value)
  | [] => some []
  | t :: ts =>
    match ofText? level t, ofElements? level ts with
    | some v, some vs => some (v :: vs)
    | _, _ => none

/-- The members of an object, put on top of those in `found`. -/
def ofMembers? (level : Nat) (found : Entries Value) :
    List (List Symbol × Text) → Option (Entries Value)
  | [] => some found
  | (k, t) :: ms =>
    match Symbol.meaning? k, ofText? level t with
    | some key, some v => ofMembers? level (Entries.insert key v found) ms
    | _, _ => none

end

mutual

def toText : Value → Text
  | null => .null
  | bool b => .bool b
  | number n => .number n.toLiteral
  | string s => .ofString s
  | array elements => .array (elementsToText elements)
  | object members => .object (membersToText members)

/-- The texts of the elements of an array. -/
def elementsToText : List Value → List Text
  | [] => []
  | v :: vs => v.toText :: elementsToText vs

/-- The texts of the members of an object. -/
def membersToText : List (String × Value) → List (List Symbol × Text)
  | [] => []
  | (k, v) :: ms => (Symbol.ofString k, v.toText) :: membersToText ms

end

mutual

/-- Equality of values. Numbers are compared by `Number.same`. -/
def same : Value → Value → Bool
  | null, null => true
  | bool a, bool b => a == b
  | number m, number n => m.same n
  | string s, string t => s == t
  | array xs, array ys => sameElements xs ys
  | object xs, object ys => sameMembers xs ys
  | _, _ => false

/-- Equality element by element. -/
def sameElements : List Value → List Value → Bool
  | [], [] => true
  | x :: xs, y :: ys => same x y && sameElements xs ys
  | _, _ => false

/-- Equality member by member. -/
def sameMembers : List (String × Value) → List (String × Value) → Bool
  | [], [] => true
  | (j, x) :: xs, (k, y) :: ys => j == k && same x y && sameMembers xs ys
  | _, _ => false

end

/-- The value that some octets hold, if they hold one. -/
def parse? (bs : Bytes) : Option Value :=
  match Text.parse? bs with
  | none => none
  | some t => ofText? nestingLimit t

/-- The octets of a value, without white space. -/
def write (v : Value) : Bytes := v.toText.write

/-- A value as text, without white space. -/
def compact (v : Value) : String := Utf8.decodeLossy v.write

/-- The value of a member of an object. -/
def member? (key : String) : Value → Option Value
  | object members => Entries.find? key members
  | _ => none

end Value

end VersionedStore.Json
