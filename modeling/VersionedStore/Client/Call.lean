import VersionedStore.Client.Error
import VersionedStore.Duration
import VersionedStore.Wire.Search

/-!
# Calls

What clients ask of a store: nine kinds of call, each with a type of answers.

## Main definitions

* `Stored`, `WriteRequest`, `Acknowledgement` — what calls on single documents carry
* `Call` — the calls
* `Call.Answer`, `Call.Reply` — what answers a call
-/

namespace VersionedStore

open Json

/-- A stored document. -/
structure Stored where
  id : String
  version : Version
  /-- The document as JSON. -/
  source : Bytes
deriving DecidableEq

/-- The writing of one document. -/
structure WriteRequest where
  /-- The id; without one the store makes one up. -/
  id : Option String
  /-- The document as JSON. -/
  payload : Bytes
  /-- The version that the document must have. -/
  required : Option Version
  /-- How the document is written. -/
  mode : WriteMode
  /-- When the write becomes visible. -/
  refresh : RefreshPolicy
deriving DecidableEq

namespace WriteRequest

/-- Puts a document in place of what is there. -/
def put (id : Option String) (payload : Bytes) : WriteRequest :=
  ⟨id, payload, none, .index, .none⟩

/-- Puts a document in place of a version of it. -/
def guarded (id : String) (payload : Bytes) (required : Version) : WriteRequest :=
  ⟨some id, payload, some required, .index, .none⟩

end WriteRequest

/-- The acknowledgement of the writing or deleting of a document. -/
structure Acknowledgement where
  id : String
  /-- The version that was made. -/
  version : Version
  /-- What was done, in a word. -/
  result : String
deriving DecidableEq

/-- What a client asks of a store. -/
inductive Call
  /-- A bulk request. -/
  | bulk (index : String) (actions : List Action) (refresh : RefreshPolicy)
  /-- A document. -/
  | get (index id : String)
  /-- The writing of a document. -/
  | write (index : String) (request : WriteRequest)
  /-- The deleting of a document. -/
  | delete (index id : String) (required : Option Version) (refresh : RefreshPolicy)
  /-- A search; with a lease it goes on. -/
  | search (index : String) (body : Wire.SearchBody) (lease : Option Duration)
  /-- The next page of a search that goes on. -/
  | advance (handle : String) (lease : Duration)
  /-- The end of a search that goes on. -/
  | release (handle : String)
  /-- The number of matches. -/
  | count (index : String) (query : Option Value)
  /-- The publishing of an index. -/
  | refresh (index : String)

namespace Call

/-- What answers a call. -/
@[reducible] def Answer : Call → Type
  | bulk .. => List Wire.Item
  | get .. => Option Stored
  | write .. => Acknowledgement
  | delete .. => Acknowledgement
  | search .. => Wire.Page
  | advance .. => Wire.Page
  | release _ => Unit
  | count .. => UInt64
  | refresh _ => Unit

/-- The answer to a call, or why there is none. -/
abbrev Reply (c : Call) : Type := Except ClientError c.Answer

end Call

end VersionedStore
