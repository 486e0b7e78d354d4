import VersionedStore.Data.Decimal
import VersionedStore.Data.Hexadecimal
import VersionedStore.Data.Utf8

/-!
# JSON texts

A JSON text as it is written, white space apart: numbers keep their digits, strings their
escapes, objects the order and the repetition of their members. What a number or a string
stands for, and whether it stands for anything, is a later question (`Json.Value`); so a
text can be checked for its form alone.

## Main definitions

* `Json.Literal` — a number as it is written
* `Json.Symbol` — an octet of a string, or an escaped UTF-16 unit
* `Json.Text` — the form of a JSON text
* `Json.Text.write` — its octets, without white space
-/

namespace VersionedStore.Json

/-- The sign of an exponent as it is written. -/
inductive ExponentSign
  | absent
  | plus
  | minus
deriving DecidableEq, Inhabited

/-- The exponent part of a number. -/
structure Exponent where
  /-- The sign as it is written. -/
  sign : ExponentSign
  /-- The digits, at least one. -/
  digits : List Digit
deriving DecidableEq

/-- A number as it is written. -/
structure Literal where
  /-- Whether there is a minus sign. -/
  negative : Bool
  /-- The digits before the point: a single zero, or any digits that do not start with one. -/
  whole : List Digit
  /-- The digits after the point, at least one, if there is a point. -/
  fraction : Option (List Digit)
  /-- The exponent, if there is one. -/
  exponent : Option Exponent
deriving DecidableEq

/-- One piece of a string: an octet, written as such or by a backslash and one character, or a
UTF-16 unit, written by its four hexadecimal digits. -/
inductive Symbol
  | plain (b : UInt8)
  | unit (u : UInt16)
deriving DecidableEq

/-- The form of a JSON text. -/
inductive Text
  | null
  | bool (b : Bool)
  | number (n : Literal)
  | string (s : List Symbol)
  | array (elements : List Text)
  | object (members : List (List Symbol × Text))

instance : Inhabited Text := ⟨.null⟩

/-! ### Octets of the punctuation -/

/-- The octets of an ASCII word. -/
def word (s : String) : Bytes := s.toList.map octet

/-- The octets that a backslash and one character stand for, with that character. -/
def shortEscapes : List (UInt8 × UInt8) :=
  [(octet '"', octet '"'), (octet '\\', octet '\\'), (0x08, octet 'b'), (0x0c, octet 'f'),
    (octet '\n', octet 'n'), (octet '\r', octet 'r'), (octet '\t', octet 't')]

/-! ### Writing -/

namespace Literal

/-- The octets of an exponent. -/
def writeExponent (e : Exponent) : Bytes :=
  octet 'e' ::
    match e.sign with
    | .absent => e.digits.map Digit.octet
    | .plus => octet '+' :: e.digits.map Digit.octet
    | .minus => octet '-' :: e.digits.map Digit.octet

/-- The octets of a number. -/
def write (n : Literal) : Bytes :=
  (if n.negative then [octet '-'] else []) ++ n.whole.map Digit.octet ++
    (match n.fraction with
      | none => []
      | some ds => octet '.' :: ds.map Digit.octet) ++
    (match n.exponent with
      | none => []
      | some e => writeExponent e)

end Literal

namespace Symbol

/-- The octets of an escaped UTF-16 unit. -/
def writeUnit (u : UInt16) : Bytes :=
  let high := UInt8.ofNat (u.toNat / 0x100)
  let low := UInt8.ofNat (u.toNat % 0x100)
  octet '\\' :: octet 'u' ::
    [Hexadecimal.high high, Hexadecimal.low high, Hexadecimal.high low, Hexadecimal.low low].map
      fun d => octet (Hexadecimal.lower d)

/-- The octets of one piece of a string. -/
def write : Symbol → Bytes
  | plain b =>
    match shortEscapes.lookup b with
    | some c => [octet '\\', c]
    | none => [b]
  | unit u => writeUnit u

/-- The pieces of a text: its octets, and the unit of a control character that has no short
escape. -/
def ofString (s : String) : List Symbol :=
  (Utf8.encode s).map fun b =>
    if b < 0x20 ∧ (shortEscapes.lookup b).isNone then unit b.toUInt16 else plain b

/-- The octets of a string in its quotes. -/
def writeQuoted (s : List Symbol) : Bytes :=
  octet '"' :: s.flatMap write ++ [octet '"']

end Symbol

namespace Text

mutual

/-- The octets of a text, without white space. -/
def write : Text → Bytes
  | null => word "null"
  | bool true => word "true"
  | bool false => word "false"
  | number n => n.write
  | string s => Symbol.writeQuoted s
  | array elements => octet '[' :: writeElements elements
  | object members => octet '\x7b' :: writeMembers members

/-- The octets of the elements of an array and of its closing bracket. -/
def writeElements : List Text → Bytes
  | [] => [octet ']']
  | t :: ts => t.write ++ writeMoreElements ts

/-- The octets of the elements after the first one, and of the closing bracket. -/
def writeMoreElements : List Text → Bytes
  | [] => [octet ']']
  | t :: ts => octet ',' :: t.write ++ writeMoreElements ts

/-- The octets of the members of an object and of its closing brace. -/
def writeMembers : List (List Symbol × Text) → Bytes
  | [] => [octet '\x7d']
  | (k, t) :: ms => Symbol.writeQuoted k ++ octet ':' :: t.write ++ writeMoreMembers ms

/-- The octets of the members after the first one, and of the closing brace. -/
def writeMoreMembers : List (List Symbol × Text) → Bytes
  | [] => [octet '\x7d']
  | (k, t) :: ms =>
    octet ',' :: Symbol.writeQuoted k ++ octet ':' :: t.write ++ writeMoreMembers ms

end

def ofString (s : String) : Text := string (Symbol.ofString s)

/-- The text of a whole number. -/
def ofNat (n : Nat) : Text := number ⟨false, Decimal.digits n, none, none⟩

/-- An object with the given members, in that order. -/
def ofMembers (ms : List (String × Text)) : Text :=
  object (ms.map fun m => (Symbol.ofString m.1, m.2))

end Text

end VersionedStore.Json
