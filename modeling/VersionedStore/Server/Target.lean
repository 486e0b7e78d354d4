import VersionedStore.Data.Percent
import VersionedStore.Data.Pieces
import VersionedStore.Data.Table
import VersionedStore.Store.Error
import VersionedStore.Wire.Word

/-!
# The target of a request

The target of a request is a path and, after the first question mark, parameters. Both are
percent encoded; empty segments of the path do not count, and of equal parameters the last
one does.

## Main definitions

* `Target` — the segments of a path and the parameters
* `Target.parse` — the target of a text
* `Params.version`, `Params.refreshPolicy`, `Params.writeMode` — what parameters stand for
-/

namespace VersionedStore

/-- The parameters of a request by name. -/
abbrev Params := Table String

/-- The target of a request. -/
structure Target where
  /-- The path as it was given. -/
  path : String
  /-- The segments of the path. -/
  segments : List String
  /-- The parameters. -/
  params : Params

namespace Target

/-- What an encoded part stands for. -/
def decodeChars (cs : List Char) : String := Percent.decode (String.ofList cs)

/-- The parameter of a piece of the query; without an equals sign its value is empty. -/
def parsePair (cs : List Char) : String × String :=
  -- The pieces are cut before they are decoded, so an encoded sign is part of a name or value.
  match cut? '=' cs with
  | some (key, value) => (decodeChars key, decodeChars value)
  | none => (decodeChars cs, "")

/-- The parameters of a query. -/
def parseParams (query : List Char) : Params :=
  Table.ofList (((pieces '&' query).filter (· ≠ [])).map parsePair)

def parseSegments (path : List Char) : List String :=
  ((pieces '/' path).filter (· ≠ [])).map decodeChars

/-- The target of a text. -/
def parse (s : String) : Target :=
  let (path, query) := (cut? '?' s.toList).getD (s.toList, [])
  ⟨String.ofList path, parseSegments path, parseParams query⟩

end Target

namespace Params

/-- The number that a parameter stands for, if it is given. -/
def number (p : Params) (name : String) : Except StoreError (Option UInt64) :=
  match p.find? name with
  | none => .ok none
  | some value =>
    match Decimal.parseWord? value with
    | none => .error (.request (.notANumber name value))
    | some n => .ok (some n)

/-- The version that a write expects. -/
def version (p : Params) : Except StoreError (Option Version) := do
  let sequence ← p.number "if_seq_no"
  let epoch ← p.number "if_primary_term"
  match Version.ofParts? sequence epoch with
  | none => .error (.request .halfVersion)
  | some v => .ok v

/-- When the writes are to become visible. -/
def refreshPolicy (p : Params) : Except StoreError RefreshPolicy :=
  match p.find? "refresh" with
  | none => .ok .none
  | some word => (Wire.refreshPolicy word).mapError .wire

/-- How a document is to be written. -/
def writeMode (p : Params) : Except StoreError WriteMode :=
  match p.find? "op_type" with
  | none => .ok .index
  | some "index" => .ok .index
  | some "create" => .ok .create
  | some word => .error (.request (.unknownMode word))

end Params

end VersionedStore
