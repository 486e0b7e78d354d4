import VersionedStore.Json.Value

/-!
# Records in JSON texts

Messages are records: named fields of fixed kinds. A record is written as an object, or as
an array of its fields in their order. Members that are no fields are checked for their
form alone, a field must not be repeated, and fields with a default may be left out.

## Main definitions

* `Json.Reader` — reads a value off a text that may nest to some depth
* `Json.Record` — the fields that a text gives
* `Json.Record.ofText?` — from an object, or from an array in the order of the fields
* `Json.Record.required`, `Json.Record.optional`, `Json.Record.orDefault` — the value of a field
* `Json.Record.tagged?` — the only member of an object
-/

namespace VersionedStore.Json

/-- Reads a value off a text in which at most the given number of arrays and objects may be
nested. -/
abbrev Reader (α : Type) := (level : Nat) → Text → Option α

namespace Reader

variable {α : Type}

/-- Reads a string. -/
def string : Reader String
  | _, .string s => Symbol.meaning? s
  | _, _ => none

/-- Reads a truth value. -/
def bool : Reader Bool
  | _, .bool b => some b
  | _, _ => none

/-- Reads any JSON value. -/
def value : Reader Value := Value.ofText?

/-- Reads a whole number from zero to below `bound`, written without point and exponent. -/
def below (bound : Nat) : Reader Nat
  | _, .number l =>
    match Number.ofLiteral? l with
    | some (.unsigned n) => if n.toNat < bound then some n.toNat else none
    | _ => none
  | _, _ => none

/-- Reads a whole number of 16 bits. -/
def word16 : Reader UInt16 := fun level t => (below (Nat.pow 2 16) level t).map UInt16.ofNat

/-- Reads a whole number of 32 bits. -/
def word32 : Reader UInt32 := fun level t => (below (Nat.pow 2 32) level t).map UInt32.ofNat

/-- Reads a whole number of 64 bits. -/
def word64 : Reader UInt64 := fun level t => (below (Nat.pow 2 64) level t).map UInt64.ofNat

/-- Reads an array of values of one kind. -/
def list (r : Reader α) : Reader (List α)
  | level + 1, .array ts => ts.mapM (r level)
  | _, _ => none

/-- Reads a value, or nothing off a null. -/
def nullable (r : Reader α) : Reader (Option α)
  | _, .null => some none
  | level, t => (r level t).map some

end Reader

/-- A field of a record. -/
structure Field where
  /-- Its name as a member of an object. -/
  name : String
  /-- Whether an array may end before it. -/
  omissible : Bool

namespace Field

/-- A field that must be given. -/
def required (name : String) : Field := ⟨name, false⟩

/-- A field that has a default. -/
def omitted (name : String) : Field := ⟨name, true⟩

end Field

/-- The fields that a text gives. -/
structure Record where
  /-- How many arrays and objects may be nested in a field. -/
  level : Nat
  /-- The texts of the fields by name, each name at most once. -/
  members : List (String × Text)

namespace Record

variable {α : Type}

/-- The fields among the members of an object, those in `found` first. -/
def ofMembers? (fields : List Field) (found : List (String × Text)) :
    List (List Symbol × Text) → Option (List (String × Text))
  | [] => some found
  | (k, t) :: ms =>
    match Symbol.meaning? k with
    | none => none
    | some key =>
      -- Unknown members are passed over; a known one must not come twice.
      if fields.any (·.name == key) then
        if (found.lookup key).isSome then none
        else ofMembers? fields (found ++ [(key, t)]) ms
      else ofMembers? fields found ms

/-- The elements of an array as fields in their order. -/
def ofElements? : List Field → List Text → Option (List (String × Text))
  | [], [] => some []
  | [], _ :: _ => none
  -- What an array leaves out at its end takes its default.
  | fields, [] => if fields.all (·.omissible) then some [] else none
  | f :: fields, t :: ts => (ofElements? fields ts).map ((f.name, t) :: ·)

/-- The record of the given fields that a text holds. -/
def ofText? (fields : List Field) : Reader Record
  | level + 1, .object members => (ofMembers? fields [] members).map fun ms => ⟨level, ms⟩
  | level + 1, .array elements => (ofElements? fields elements).map fun ms => ⟨level, ms⟩
  | _, _ => none

/-- The value of a field that must be given. -/
def required (r : Record) (name : String) (read : Reader α) : Option α :=
  match r.members.lookup name with
  | none => none
  | some t => read r.level t

/-- The value of a field that may be left out or null. -/
def optional (r : Record) (name : String) (read : Reader α) : Option (Option α) :=
  match r.members.lookup name with
  | none => some none
  | some t => Reader.nullable read r.level t

/-- The value of a field that may be left out. -/
def orDefault (r : Record) (name : String) (default : α) (read : Reader α) : Option α :=
  match r.members.lookup name with
  | none => some default
  | some t => read r.level t

/-- The key of an object's only member and the value of the member. -/
def tagged? (read : (key : String) → Reader α) : Reader α
  | level + 1, .object [(k, t)] =>
    match Symbol.meaning? k with
    | none => none
    | some key => read key level t
  | _, _ => none

/-- A member that is written if there is a value. -/
def given (name : String) (write : α → Text) : Option α → List (String × Text)
  | none => []
  | some a => [(name, write a)]

end Record

/-- The words for a text that is no JSON, or is not of the form that is asked for. -/
def faultText : String := "<json>"

end VersionedStore.Json
