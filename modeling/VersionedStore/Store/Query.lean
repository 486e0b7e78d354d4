import VersionedStore.Data.Pieces
import VersionedStore.Store.Error

/-!
# Queries

A query is absent or an object with at most one clause: everything, nothing, the documents
with given ids, or the documents with a given value in a field. The field is a member of the
document or a dotted path through objects; where it holds an array, one element must have
the value.

## Main definitions

* `Query` — the queries
* `Query.parse` — the query of a JSON value
* `Query.lookup?` — the value of a field
* `Query.accepts` — which documents a query selects
-/

namespace VersionedStore

open Json

/-- A query. -/
inductive Query
  /-- Every document. -/
  | all
  /-- No document. -/
  | nothing
  /-- The documents with a value in a field. -/
  | term (field : String) (value : Value)
  /-- The documents with one of the ids. -/
  | ids (chosen : List String)

namespace Query

/-! ### Reading -/

/-- The value that a term asks for: in the long form, an object, the member `value`. -/
def termValue : Value → Except QueryFault Value
  | .object members =>
    match Entries.find? "value" members with
    | none => .error .noValue
    | some v => .ok v
  | .array _ => .error .arrayValue
  | v => .ok v

/-- The query of the body of a term clause. -/
def parseTerm : Value → Except QueryFault Query
  | .object [(field, body)] => (termValue body).map (term field)
  | .object _ => .error .notOneField
  | _ => .error .malformedTerm

/-- The id that a value stands for; a number stands for its text. -/
def parseId : Value → Except QueryFault String
  | .string s => .ok s
  | .number n => .ok (Value.number n).compact
  | v => .error (.badId v.compact)

/-- The query of the body of an ids clause. -/
def parseIds (body : Value) : Except QueryFault Query :=
  match body.member? "values" with
  | some (.array values) => (values.mapM parseId).map ids
  | _ => .error .noIds

def parseClause (name : String) (body : Value) : Except QueryFault Query :=
  match name with
  | "match_all" => .ok all
  | "match_none" => .ok nothing
  | "term" => parseTerm body
  | "ids" => parseIds body
  | _ => .error (.unsupported name)

/-- The query of a value. No value, null and the empty object select everything. -/
def parse : Option Value → Except QueryFault Query
  | none | some .null | some (.object []) => .ok all
  | some (.object [(name, body)]) => parseClause name body
  | some (.object _) => .error .manyClauses
  | some v => .error (.notObject v.compact)

/-! ### Selecting -/

/-- The value at the end of a path through objects. -/
def follow (path : List String) (source : Value) : Option Value :=
  path.foldlM (fun node part => node.member? part) source

/-- The parts of a dotted name. -/
def parts (field : String) : List String := (pieces '.' field.toList).map String.ofList

/-- The value of a field: the member of that name, else what its dotted parts lead to. -/
def lookup? (source : Value) (field : String) : Option Value :=
  match source.member? field with
  -- A name with dots in it may be the name of a member, and this comes first.
  | some v => some v
  | none => follow (parts field) source

/-- Whether what a field holds meets a value: an array by one of its elements, all else by
itself. -/
def meets (value : Value) : Option Value → Bool
  | none => false
  | some (.array elements) => elements.any (·.same value)
  | some found => found.same value

/-- Whether the query selects a document. -/
def accepts (q : Query) (id : String) (source : Value) : Bool :=
  match q with
  | all => true
  | nothing => false
  | ids chosen => chosen.contains id
  | term field value => meets value (lookup? source field)

end Query

end VersionedStore
