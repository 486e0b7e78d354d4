import VersionedStore.Bulk.Body
import VersionedStore.Server.Target
import VersionedStore.Store.Scroll

/-!
# The server

A server answers requests with the operations of a store and of its open scrolls. The method
and the segments of the path tell what is asked for; a refusal becomes a reply with the
status and the cause of the error.

## Main definitions

* `Request`, `Reply` — what comes in and what goes out
* `Route` — what a request asks for
* `Server` — a store with its open scrolls
* `Server.handle` — the answer to a request, and the server after it
-/

namespace VersionedStore

open Json

/-! ### Requests and replies -/

/-- A request. -/
structure Request where
  method : String
  /-- The path, which may carry parameters. -/
  target : String
  body : Bytes
deriving DecidableEq

/-- The answer to a request. -/
structure Reply where
  status : UInt16
  body : Bytes
deriving DecidableEq

namespace Reply

/-- The reply with a JSON body. -/
def ofText (status : UInt16) (t : Text) : Reply := ⟨status, t.write⟩

/-- The reply to a refused request. -/
def ofError (e : StoreError) : Reply := ofText e.status e.toFailure.toText

/-- Whether the request was carried out. -/
def isSuccess (r : Reply) : Bool := 200 ≤ r.status && r.status < 300

end Reply

/-! ### Routes -/

/-- What a request asks for. -/
inductive Route
  /-- A bulk request, with an index for the actions that name none. -/
  | bulk (index : Option String)
  /-- The next page of a scroll. -/
  | advance
  /-- The release of scrolls. -/
  | clear
  /-- A document. -/
  | get (index id : String)
  /-- The writing of a document, in the mode that the parameters tell. -/
  | put (index id : String)
  /-- The writing of a document that must be new. -/
  | create (index : String) (id : Option String)
  /-- The deleting of a document. -/
  | delete (index id : String)
  /-- A search. -/
  | search (index : String)
  /-- The number of matches. -/
  | count (index : String)
  /-- The publishing of an index. -/
  | refresh (index : String)
deriving DecidableEq

namespace Route

/-- What a method with two segments asks for. -/
def ofPair? (method first second : String) : Option Route :=
  if second = "_bulk" ∧ method = "POST" then some (.bulk (some first))
  else if first = "_search" ∧ second = "scroll" ∧ (method = "GET" ∨ method = "POST") then
    some .advance
  else if first = "_search" ∧ second = "scroll" ∧ method = "DELETE" then some .clear
  else if second = "_doc" ∧ method = "POST" then some (.create first none)
  else if second = "_search" ∧ (method = "GET" ∨ method = "POST") then some (.search first)
  else if second = "_count" ∧ (method = "GET" ∨ method = "POST") then some (.count first)
  else if second = "_refresh" ∧ (method = "GET" ∨ method = "POST") then some (.refresh first)
  else none

/-- What a method with three segments asks for. -/
def ofTriple? (method index word id : String) : Option Route :=
  if word = "_doc" then
    if method = "GET" then some (.get index id)
    else if method = "PUT" ∨ method = "POST" then some (.put index id)
    else if method = "DELETE" then some (.delete index id)
    else none
  else if word = "_create" ∧ (method = "PUT" ∨ method = "POST") then some (.create index (some id))
  else none

/-- What a method and the segments of a path ask for. -/
def ofSegments? (method : String) : List String → Option Route
  | [word] => if word = "_bulk" ∧ method = "POST" then some (.bulk none) else none
  | [first, second] => ofPair? method first second
  | [index, word, id] => ofTriple? method index word id
  | _ => none

end Route

/-- What a request asks for. -/
def Request.route? (r : Request) : Option Route :=
  Route.ofSegments? r.method (Target.parse r.target).segments

/-! ### The server -/

/-- A store with its open scrolls. -/
structure Server where
  store : Store
  /-- The open scrolls. -/
  scrolls : Scrolls

namespace Server

def empty (config : StoreConfig) (ids : NameSupply := .documents) (handles : NameSupply := .cursors) :
    Server := ⟨.empty config ids, .empty handles⟩

/-- The message of a body. -/
def readBody {α : Type} (read : Reader α) (body : Bytes) : Except StoreError α :=
  match Wire.parse? read body with
  | none => .error .json
  | some a => .ok a

/-- The server with another store, where an operation of the store answers. -/
def onStore {α : Type} (s : Server) (r : Except StoreError α × Store) (reply : α → Reply) :
    Except StoreError Reply × Server :=
  (r.1.map reply, { s with store := r.2 })

/-- Carries out a bulk request. -/
def bulk (s : Server) (index : Option String) (params : Params) (body : Bytes) :
    Except StoreError Reply × Server :=
  -- Of two faults that of the body is told.
  match (Bulk.decode body).mapError StoreError.wire, params.refreshPolicy with
  | .error e, _ => (.error e, s)
  | .ok _, .error e => (.error e, s)
  | .ok actions, .ok refresh =>
    s.onStore (s.store.bulk index actions refresh) fun r => .ofText 200 r.toText

def writtenReply (name : String) (w : Written) : Wire.WriteReply :=
  ⟨name, w.id, w.result.word, w.version.sequence, w.version.epoch⟩

/-- Writes a document. -/
def write (s : Server) (index : String) (id : Option String) (mode : WriteMode) (params : Params)
    (body : Bytes) : Except StoreError Reply × Server :=
  -- The parameters are all read before the store is asked.
  match params.version, params.refreshPolicy with
  | .error e, _ => (.error e, s)
  | .ok _, .error e => (.error e, s)
  | .ok required, .ok refresh =>
    s.onStore (s.store.write index id mode.kind required body refresh) fun w =>
      .ofText w.result.status (writtenReply index w).toText

/-- Deletes a document. -/
def delete (s : Server) (index id : String) (params : Params) : Except StoreError Reply × Server :=
  match params.version, params.refreshPolicy with
  | .error e, _ => (.error e, s)
  | .ok _, .error e => (.error e, s)
  | .ok required, .ok refresh =>
    s.onStore (s.store.delete index id required refresh) fun w =>
      .ofText 200 (writtenReply index w).toText

/-- Reads a document; that there is none is a reply of its own. -/
def get (s : Server) (index id : String) : Except StoreError Reply := do
  let r ← s.store.get index id
  return .ofText (if r.found then 200 else 404) r.toText

/-- The lease that a word stands for, if it is not too long. -/
def lease (s : Server) (word : String) : Except StoreError Duration :=
  match Wire.duration word with
  | .error e => .error (.wire e)
  | .ok d =>
    -- The limit is exact, but a refusal tells both in whole seconds.
    let limit := s.store.config.maxLease
    if d.exceeds limit then .error (.request (.leaseTooLong d.seconds limit.seconds)) else .ok d

/-- The size of a page where none is asked for. -/
def defaultSize : UInt32 := 10

/-- The search of a body; an empty one asks for everything. -/
def searchBody (body : Bytes) : Except StoreError Wire.SearchBody :=
  if body = [] then .ok (.ofQuery none defaultSize) else readBody Wire.SearchBody.read body

def query (q : Option Value) : Except StoreError Query :=
  (Query.parse q).mapError fun fault => .request (.query fault)

/-- The hits that a search asks for. -/
def hits (s : Server) (index : String) (b : Wire.SearchBody) :
    Except StoreError (List Wire.RawHit) := do
  let limit := s.store.config.maxPage
  if limit < b.size then throw (.request (.pageTooLarge b.size.toNat limit.toNat))
  s.store.search index (← query b.query) b.versions

/-- The lease of a search that goes on. -/
def scrollLease (s : Server) (b : Wire.SearchBody) (word : String) : Except StoreError Duration :=
  if b.size = 0 then .error (.request .emptyPage) else s.lease word

/-- Searches an index; with the parameter `scroll` the search goes on. -/
def search (s : Server) (index : String) (params : Params) (body : Bytes) :
    Except StoreError Reply × Server :=
  match searchBody body with
  | .error e => (.error e, s)
  | .ok b =>
    -- The size, the query and the index are checked first, then the lease.
    match s.hits index b with
    | .error e => (.error e, s)
    | .ok hits =>
      match params.find? "scroll" with
      | none =>
        let total := Wire.Total.exact (UInt64.ofNat hits.length)
        let page : Wire.SearchReply := ⟨none, 0, total, hits.take b.size.toNat⟩
        (.ok (.ofText 200 page.toText), s)
      | some word =>
        match s.scrollLease b word with
        | .error e => (.error e, s)
        | .ok lease =>
          let (page, scrolls) := s.scrolls.start hits b.size.toNat lease
          (.ok (.ofText 200 page.toText), { s with scrolls })

/-- The next page of a scroll. -/
def advance (s : Server) (body : Bytes) : Except StoreError Reply × Server :=
  match readBody Wire.ScrollBody.read body with
  | .error e => (.error e, s)
  | .ok b =>
    match s.lease b.lease with
    | .error e => (.error e, s)
    | .ok lease =>
      let (page, scrolls) := s.scrolls.advance b.handle lease
      (page.map fun p => .ofText 200 p.toText, { s with scrolls })

/-- Releases scrolls. That none of those asked for was open is told by the status. -/
def clear (s : Server) (body : Bytes) : Except StoreError Reply × Server :=
  match readBody Wire.ClearBody.read body with
  | .error e => (.error e, s)
  | .ok b =>
    let (freed, scrolls) := s.scrolls.clear b.handles
    let reply : Wire.ClearReply := ⟨true, UInt32.ofNat freed⟩
    (.ok (.ofText (if freed = 0 ∧ b.handles ≠ [] then 404 else 200) reply.toText),
      { s with scrolls })

/-- Counts matches; an empty body asks for all documents. -/
def count (s : Server) (index : String) (body : Bytes) : Except StoreError Reply := do
  let b ← if body = [] then .ok ⟨none⟩ else readBody Wire.CountBody.read body
  let n ← s.store.count index (← query b.query)
  return .ofText 200 (Wire.CountReply.toText ⟨n⟩)

/-- The reply to a refresh. -/
def refreshed : Text :=
  .ofMembers [("_shards",
    .ofMembers [("failed", .ofNat 0), ("successful", .ofNat 1), ("total", .ofNat 1)])]

/-- Does what a route asks for. -/
def run (s : Server) (params : Params) (body : Bytes) : Route → Except StoreError Reply × Server
  | .bulk index => s.bulk index params body
  | .advance => s.advance body
  | .clear => s.clear body
  | .get index id => (s.get index id, s)
  | .put index id =>
    match params.writeMode with
    | .error e => (.error e, s)
    | .ok mode => s.write index (some id) mode params body
  | .create index id => s.write index id .create params body
  | .delete index id => s.delete index id params
  | .search index => s.search index params body
  | .count index => (s.count index body, s)
  | .refresh index => s.onStore (s.store.refresh index) fun _ => .ofText 200 refreshed

/-- The answer to a request before refusals become replies. -/
def answer (s : Server) (r : Request) : Except StoreError Reply × Server :=
  let target := Target.parse r.target
  match Route.ofSegments? r.method target.segments with
  | none => (.error (.noRoute r.method target.path), s)
  | some route => s.run target.params r.body route

/-- The answer to a request, and the server after it, where the clock of the server has room for the
lease that is asked for; `Server.serve` also tells what happens where it has not. -/
def handle (s : Server) (r : Request) : Reply × Server :=
  let (reply, s) := s.answer r
  match reply with
  -- The server is not always as it was after a refusal: a refused write may have made its index.
  | .ok reply => (reply, s)
  | .error e => (.ofError e, s)

end Server

end VersionedStore
