import VersionedStore.Bulk.Body
import VersionedStore.Client.Program
import VersionedStore.Data.Percent
import VersionedStore.Server.Basic

/-!
# Calls over HTTP

Every call is one request with a path, parameters and a body, and every reply answers its
call. What carries the requests is left open: a client maps a request to a reply or to a
failure to get through.

## Main definitions

* `HttpConfig` — the address of the store and the time limit
* `Http.Draft`, `Http.draft` — the request of a call
* `Http.answer` — what a reply answers to a call
* `HttpClient`, `Http.transport` — the transport over a client of requests
-/

namespace VersionedStore

open Json

/-- The address of a store and the time limit of requests. -/
structure HttpConfig where
  /-- The address, which does not end in a slash. -/
  base : String
  /-- The time limit. -/
  timeout : Duration
deriving DecidableEq

namespace HttpConfig

/-- The time limit where none is given. -/
def standardTimeout : Duration := .ofSeconds 30

/-- The configuration of an address; slashes at its end do not count. -/
def ofUrl (url : String) : HttpConfig :=
  ⟨String.ofList (url.toList.reverse.dropWhile (· = '/')).reverse, standardTimeout⟩

end HttpConfig

/-- A request as it is sent. -/
structure HttpRequest where
  method : String
  /-- The address, with path and parameters. -/
  url : String
  /-- The body, if there is one. -/
  body : Option Bytes
  /-- The time limit. -/
  timeout : Duration
deriving DecidableEq

/-- What carries requests: gets a reply, or tells why none came. -/
abbrev HttpClient (σ : Type) : Type := HttpRequest → σ → Except String Reply × σ

namespace Http

/-- A request without the address of the store. -/
structure Draft where
  method : String
  /-- The path with its parameters. -/
  path : String
  /-- The body, if there is one. -/
  body : Option Bytes
deriving DecidableEq

/-! ### Paths -/

def indexPath (index : String) : String := "/" ++ Percent.encode index

def documentPath (index id : String) : String := s!"{indexPath index}/_doc/{Percent.encode id}"

/-- The path of what concerns open scrolls. -/
def scrollPath : String := "/_search/scroll"

/-- The parameter that tells when writes become visible. -/
def refreshParam (p : RefreshPolicy) : String := s!"refresh={p.param}"

/-- The parameters that tell the version a write expects. -/
def versionParams : Option Version → List String
  | none => []
  | some v =>
    [s!"if_seq_no={Decimal.text v.sequence.toNat}",
      s!"if_primary_term={Decimal.text v.epoch.toNat}"]

/-- The parameters of a write. -/
def writeQuery (mode : Option WriteMode) (required : Option Version) (refresh : RefreshPolicy) :
    String :=
  let modes := match mode with
    | none => []
    | some m => [s!"op_type={m.word}"]
  "?" ++ "&".intercalate (modes ++ versionParams required ++ [refreshParam refresh])

/-! ### Requests -/

/-- The request that writes a document. -/
def draftWrite (index : String) (w : WriteRequest) : Draft :=
  match w.id with
  | some id =>
    ⟨"PUT", documentPath index id ++ writeQuery (some w.mode) w.required w.refresh, some w.payload⟩
  | none =>
    ⟨"POST", s!"{indexPath index}/_doc" ++ writeQuery none w.required w.refresh, some w.payload⟩

/-- The parameter that tells the lease of a search that goes on. -/
def leaseQuery : Option Duration → String
  | none => ""
  | some d => s!"?scroll={d.lease}"

/-- The request of a call. -/
def draft : Call → Except ClientError Draft
  | .bulk index actions refresh =>
    match Bulk.encode actions with
    | .error e => .error (.ofWire e)
    | .ok body => .ok ⟨"POST", s!"{indexPath index}/_bulk?{refreshParam refresh}", some body⟩
  | .get index id => .ok ⟨"GET", documentPath index id, none⟩
  | .write index w => .ok (draftWrite index w)
  | .delete index id required refresh =>
    .ok ⟨"DELETE", documentPath index id ++ writeQuery none required refresh, none⟩
  | .search index body lease =>
    .ok ⟨"POST", s!"{indexPath index}/_search" ++ leaseQuery lease, some body.toText.write⟩
  | .advance handle lease =>
    let body : Wire.ScrollBody := ⟨lease.lease, handle⟩
    .ok ⟨"POST", scrollPath, some body.toText.write⟩
  | .release handle =>
    let body : Wire.ClearBody := ⟨[handle]⟩
    .ok ⟨"DELETE", scrollPath, some body.toText.write⟩
  | .count index query =>
    let body : Wire.CountBody := ⟨query⟩
    .ok ⟨"POST", s!"{indexPath index}/_count", some body.toText.write⟩
  | .refresh index => .ok ⟨"POST", s!"{indexPath index}/_refresh", none⟩

/-! ### Replies -/

/-- The message of a reply to a request that was carried out. -/
def decode {α : Type} (read : Reader α) (id : Option String) (r : Reply) : Except ClientError α :=
  if r.isSuccess then
    match Wire.parse? read r.body with
    | none => .error (.answer .unreadable)
    | some a => .ok a
  else .error (.ofReply r.status r.body id)

/-- The document of a reply to its reading. -/
def stored? (id : String) (r : Wire.GetReply) : Except ClientError (Option Stored) :=
  if r.found then
    match r.version with
    | .error e => .error (.ofWire e)
    | .ok none => .error (.answer (.noVersion id))
    | .ok (some v) => .ok (some ⟨r.id, v, r.sourceBytes.getD Wire.emptyDocument⟩)
  else .ok none

def acknowledgement (r : Wire.WriteReply) : Acknowledgement := ⟨r.id, r.version, r.result⟩

/-- The page of a reply to a search. -/
def page (r : Reply) : Except ClientError Wire.Page :=
  match decode Wire.SearchReply.read none r with
  | .error e => .error e
  | .ok reply => reply.toPage.mapError ClientError.ofWire

/-- A reply that matters only by its status. -/
def done (r : Reply) : Except ClientError Unit :=
  if r.isSuccess then .ok () else .error (.ofReply r.status r.body none)

def answer : (c : Call) → Reply → c.Reply
  | .bulk .., r => (decode Wire.BulkReply.read none r).map (·.items)
  | .get _ id, r =>
    -- A missing index counts as a missing document.
    if r.status = 404 then .ok none
    else
      match decode Wire.GetReply.read (some id) r with
      | .error e => .error e
      | .ok reply => stored? id reply
  | .write _ w, r => (decode Wire.WriteReply.read w.id r).map acknowledgement
  | .delete _ id _ _, r => (decode Wire.WriteReply.read (some id) r).map acknowledgement
  | .search .., r => page r
  | .advance .., r => page r
  -- A handle that is not open any more is as good as released.
  | .release _, r => if r.status = 404 then .ok () else done r
  | .count .., r => (decode Wire.CountReply.read none r).map (·.count)
  | .refresh _, r => done r

/-! ### The transport -/

/-- A client of requests, with the last failure to get through. -/
structure Connection (σ : Type) where
  /-- The state of the client. -/
  client : σ
  /-- Why the last request did not get through, if it did not. -/
  lastError : Option String

def request (config : HttpConfig) (d : Draft) : HttpRequest :=
  ⟨d.method, config.base ++ d.path, d.body, config.timeout⟩

/-- The transport over a client of requests. -/
def transport {σ : Type} (config : HttpConfig) (client : HttpClient σ) :
    Transport (Connection σ) := fun c s =>
  match draft c with
  | .error e => (.error e, s)
  | .ok d =>
    match client (request config d) s.client with
    | (.error reason, client) => (.error (.transport reason true), ⟨client, some reason⟩)
    -- A reply of any status clears the last failure, as the request got through.
    | (.ok reply, client) => (answer c reply, ⟨client, none⟩)

end Http

end VersionedStore
