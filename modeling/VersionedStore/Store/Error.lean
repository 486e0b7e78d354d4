import VersionedStore.Wire.Item

/-!
# Refusals of the store

Why the store refuses a request: the causes as data, with their words, their statuses and
their names on the wire.

## Main definitions

* `QueryFault`, `RequestFault`, `ConflictReason` — the causes in detail
* `StoreError` — the causes
* `StoreError.message`, `StoreError.status`, `StoreError.type` — words, status and name
* `StoreError.toCause`, `StoreError.toFailure` — the cause on the wire
-/

namespace VersionedStore

/-! ### Causes in detail -/

/-- What can be wrong with a query. -/
inductive QueryFault
  /-- It is no object. -/
  | notObject (got : String)
  /-- It has several clauses. -/
  | manyClauses
  /-- Its clause is of no known kind. -/
  | unsupported (name : String)
  /-- Its term is no object. -/
  | malformedTerm
  /-- Its term does not have exactly one field. -/
  | notOneField
  /-- The value of its term is an array. -/
  | arrayValue
  /-- The long form of its term has no value. -/
  | noValue
  /-- Its list of ids is missing. -/
  | noIds
  /-- One of its ids is neither text nor number. -/
  | badId (got : String)
deriving DecidableEq

/-- The words for what is wrong with a query. -/
def QueryFault.message : QueryFault → String
  | notObject got => s!"query must be an object, got {got}"
  | manyClauses => "query must contain a single clause"
  | unsupported name => s!"unsupported query type [{name}]"
  | malformedTerm => "[term] query malformed"
  | notOneField => "[term] query must name exactly one field"
  | arrayValue => "[term] query does not support array values"
  | noValue => "[term] query requires a value"
  | noIds => "[ids] query requires values"
  | badId got => s!"invalid id {got}"

/-- What can be wrong with a request. -/
inductive RequestFault
  /-- The query. -/
  | query (fault : QueryFault)
  /-- A document is no object. -/
  | sourceNotObject (got : String)
  /-- A create names an expected version. -/
  | guardedCreate
  /-- A delete is asked for as a write. -/
  | deleteIsNoWrite
  /-- A put names no document. -/
  | putWithoutId
  /-- An action of a bulk request has no index. -/
  | noIndexNamed
  /-- An action of a bulk request names no document. -/
  | noIdNamed
  /-- An action of a bulk request has no document. -/
  | noSource
  /-- A bulk request has too many actions. -/
  | tooManyActions (count limit : Nat)
  /-- A word stands for no way of writing. -/
  | unknownMode (word : String)
  /-- Only one half of a version is given. -/
  | halfVersion
  /-- A parameter is no number. -/
  | notANumber (name value : String)
  /-- A page is too large. -/
  | pageTooLarge (size limit : Nat)
  /-- A search that is to go on has empty pages. -/
  | emptyPage
  /-- A lease is too long; both in whole seconds. -/
  | leaseTooLong (asked limit : Nat)
  /-- Anything else, in words. -/
  | stated (words : String)
deriving DecidableEq

/-- The words for what is wrong with a request. -/
def RequestFault.message : RequestFault → String
  | query fault => fault.message
  | sourceNotObject got => s!"document source must be an object, got {got}"
  | guardedCreate => "create operations do not support compare and set"
  | deleteIsNoWrite => "deletes are not writes"
  | putWithoutId => "index requires an id"
  | noIndexNamed => "action does not name an index"
  | noIdNamed => "action requires an _id"
  | noSource => "action is missing its source"
  | tooManyActions count limit =>
    s!"bulk request has {Decimal.text count} actions, limit is {Decimal.text limit}"
  | unknownMode word => s!"unknown op_type [{word}]"
  | halfVersion => "if_seq_no and if_primary_term must be set together"
  | notANumber name value => s!"[{name}] must be a number, got [{value}]"
  | pageTooLarge size limit =>
    s!"result window is too large, size [{Decimal.text size}] exceeds [{Decimal.text limit}]"
  | emptyPage => "[size] cannot be [0] in a scroll context"
  | leaseTooLong asked limit =>
    s!"scroll keep alive [{Decimal.text asked}s] exceeds the maximum [{Decimal.text limit}s]"
  | stated words => words

/-- Why a document has not the version that a write expects. -/
inductive ConflictReason
  /-- There is no document. -/
  | noDocument (required : Version)
  /-- The document has another version. -/
  | otherVersion (required current : Version)
  /-- There is a document already. -/
  | alreadyExists (current : Version)
  /-- Anything else, in words. -/
  | stated (words : String)
deriving DecidableEq

/-- The words for a version that is required. -/
def ConflictReason.requirement (v : Version) : String :=
  let sequence := Decimal.text v.sequence.toNat
  let epoch := Decimal.text v.epoch.toNat
  s!"required seqNo [{sequence}], primary term [{epoch}]"

/-- The words for the reason of a conflict. -/
def ConflictReason.message : ConflictReason → String
  | noDocument required => requirement required ++ " but no document was found"
  | otherVersion required current =>
    let sequence := Decimal.text current.sequence.toNat
    let epoch := Decimal.text current.epoch.toNat
    requirement required ++
      s!". current document has seqNo [{sequence}] and primary term [{epoch}]"
  | alreadyExists current =>
    let sequence := Decimal.text current.sequence.toNat
    s!"document already exists (current seqNo [{sequence}])"
  | stated words => words

/-! ### Causes -/

/-- Why the store refuses a request. -/
inductive StoreError
  /-- The request is wrong. -/
  | request (fault : RequestFault)
  /-- The document has not the expected version, or exists already. -/
  | conflict (id : String) (reason : ConflictReason)
  /-- There is no such document. -/
  | documentMissing (id : String)
  /-- There is no such index. -/
  | indexMissing (name : String)
  /-- There is no such cursor, or its lease is over. -/
  | cursorMissing (handle : String)
  /-- Nothing answers to this method and path. -/
  | noRoute (method path : String)
  /-- Something else went wrong. -/
  | internal (words : String)
  /-- A body is no JSON, or has not the form of its message. -/
  | json
  /-- A message is wrong. -/
  | wire (error : Wire.Error)
deriving DecidableEq

namespace StoreError

/-- The words for a cause. -/
def message : StoreError → String
  | request fault => s!"invalid request: {fault.message}"
  | conflict id reason => s!"[{id}]: version conflict, {reason.message}"
  | documentMissing id => s!"[{id}]: document missing"
  | indexMissing name => s!"no such index [{name}]"
  | cursorMissing handle => s!"no search context found for id [{handle}]"
  | noRoute method path => s!"no handler found for uri [{path}] and method [{method}]"
  | internal words => s!"internal error: {words}"
  | json => Wire.Error.message .json
  | wire error => error.message

/-- The status of a cause. -/
def status : StoreError → UInt16
  | request _ | noRoute .. | json | wire _ => 400
  | conflict .. => 409
  | documentMissing _ | indexMissing _ | cursorMissing _ => 404
  | internal _ => 500

/-- The name of a cause. -/
def type : StoreError → String
  | request _ => "illegal_argument_exception"
  | noRoute .. => "no_handler_found_exception"
  | json | wire _ => "parse_exception"
  | conflict .. => "version_conflict_engine_exception"
  | documentMissing _ => "document_missing_exception"
  | indexMissing _ => "index_not_found_exception"
  | cursorMissing _ => "search_context_missing_exception"
  | internal _ => "internal_server_error"

/-- Whether the fault is the client's. -/
def isClientError (e : StoreError) : Bool := 400 ≤ e.status && e.status < 500

/-- The cause on the wire. -/
def toCause (e : StoreError) : Wire.Cause := ⟨e.type, e.message⟩

/-- The body of the reply to a refused request. -/
def toFailure (e : StoreError) : Wire.Failure := ⟨e.toCause, e.status⟩

end StoreError

end VersionedStore
