import VersionedStore.Client.Cursor
import VersionedStore.Client.Queue

/-!
# Repositories

A repository is a collection of documents of one type in one index. Reads and searches go to
one name of it and writes to another; both are the index if nothing else is said.

## Main definitions

* `RepositoryConfig` — names, visibility and attempts
* `SearchOptions` — size of the pages, and whether a search goes on
* `Repository` — a codec and a configuration
* `Repository.index`, `Repository.get`, `Repository.update`, `Repository.search`, … — the calls
* `Repository.bulk`, `Repository.queuedBulk` — a block of writes in a session of its own
-/

namespace VersionedStore

open Json

/-- How a repository works. -/
structure RepositoryConfig where
  index : String
  /-- The name for reads and searches. -/
  readAlias : Option String := none
  /-- The name for writes. -/
  writeAlias : Option String := none
  /-- Whether the index may be refreshed. -/
  refreshAllowed : Bool := false
  /-- How often updates are tried. -/
  retry : RetryConfig := .standard
  /-- When writes of single documents become visible. -/
  refresh : RefreshPolicy := .none
deriving DecidableEq

namespace RepositoryConfig

/-- The name that reads and searches go to. -/
def readTarget (c : RepositoryConfig) : String := c.readAlias.getD c.index

/-- The name that writes go to. -/
def writeTarget (c : RepositoryConfig) : String := c.writeAlias.getD c.index

end RepositoryConfig

/-- How a search is carried out. -/
structure SearchOptions where
  /-- The number of hits on a page. -/
  pageSize : UInt32
  /-- The lease of a search that goes on; without one there is one page. -/
  lease : Option Duration
deriving DecidableEq

namespace SearchOptions

/-- The lease where none is given. -/
def standardLease : Duration := .ofSeconds 60

/-- A search that goes on. -/
def scrolling (pageSize : UInt32) : SearchOptions := ⟨pageSize, some standardLease⟩

/-- A search of one page. -/
def single (pageSize : UInt32) : SearchOptions := ⟨pageSize, none⟩

/-- A search that goes on, with pages of a hundred hits. -/
def standard : SearchOptions := scrolling 100

def cursorLease (o : SearchOptions) : Duration := o.lease.getD standardLease

end SearchOptions

/-- A document with its version. -/
structure Versioned (α : Type) where
  id : String
  version : Version
  document : α

/-- A collection of documents of one type in one index. -/
structure Repository (α : Type) where
  /-- How documents are written and read. -/
  codec : Codec α
  /-- How the repository works. -/
  config : RepositoryConfig

namespace Repository

variable {α β : Type}

/-! ### Single documents -/

/-- Writes an encoded document. -/
def write (r : Repository α) (w : WriteRequest) : Program (Except ClientError Acknowledgement) :=
  .ask (.write r.config.writeTarget { w with refresh := r.config.refresh })

/-- Puts a document in place of what is there. -/
def index (r : Repository α) (id : Option String) (document : α) :
    Program (Except ClientError Acknowledgement) :=
  match r.codec.encode document with
  | .error e => .done (.error e)
  | .ok payload => r.write (.put id payload)

/-- Makes a document; there must be none of that id. -/
def create (r : Repository α) (id : Option String) (document : α) :
    Program (Except ClientError Acknowledgement) :=
  match r.codec.encode document with
  | .error e => .done (.error e)
  | .ok payload => r.write { WriteRequest.put id payload with mode := .create }

/-- Puts a document in place of a version of it; the two halves of the version are given
together or not at all. -/
def indexIf (r : Repository α) (id : String) (document : α) (sequence epoch : Option UInt64) :
    Program (Except ClientError Acknowledgement) :=
  match r.codec.encode document with
  | .error e => .done (.error e)
  | .ok payload =>
    match Version.ofParts? sequence epoch with
    | none => .done (.error (.ofWire .halfVersion))
    | some required => r.write { WriteRequest.put (some id) payload with required }

/-- The document of what is stored. -/
def decode (r : Repository α) (d : Stored) : Except ClientError (Versioned α) :=
  (r.codec.decode d.source).map fun document => ⟨d.id, d.version, document⟩

/-- Reads a document with its version. -/
def getVersioned (r : Repository α) (id : String) :
    Program (Except ClientError (Option (Versioned α))) :=
  .call (.get r.config.readTarget id) fun
    | .error e => .done (.error e)
    | .ok none => .done (.ok none)
    | .ok (some d) => .done ((r.decode d).map some)

/-- Reads a document. -/
def get (r : Repository α) (id : String) : Program (Except ClientError (Option α)) :=
  (r.getVersioned id).bind fun d => .done (d.map fun d => d.map (·.document))

/-- Updates a document with a number of attempts of its own. -/
def updateWith (r : Repository α) (id : String) (retry : RetryConfig) (change : α → α) :
    Program (Except ClientError Updated) :=
  let u : Updater α := ⟨r.codec, r.config.writeTarget, r.config.refresh, retry.limit⟩
  u.update id change

/-- Updates a document. -/
def update (r : Repository α) (id : String) (change : α → α) :
    Program (Except ClientError Updated) :=
  r.updateWith id r.config.retry change

/-- Deletes a document. -/
def delete (r : Repository α) (id : String) (required : Option Version) :
    Program (Except ClientError Acknowledgement) :=
  .ask (.delete r.config.writeTarget id required r.config.refresh)

/-! ### Searches -/

/-- The number of matches. -/
def count (r : Repository α) (query : Option Value) : Program (Except ClientError UInt64) :=
  .ask (.count r.config.readTarget query)

/-- Makes all writes visible to searches. -/
def refresh (r : Repository α) : Program (Except ClientError Unit) :=
  if r.config.refreshAllowed then .ask (.refresh r.config.readTarget)
  else .done (.error .refreshNotAllowed)

/-- Searches, and puts a cursor on the first page. -/
def search (r : Repository α) (query : Option Value) (o : SearchOptions) :
    Program (Except ClientError Cursor) :=
  .call (.search r.config.readTarget (.ofQuery query o.pageSize) o.lease) fun
    | .error e => .done (.error e)
    | .ok first => .done (.ok (.start first o.cursorLease))

/-- The hit that a cursor hands out, with its document. -/
def decodeHit (r : Repository α) (h : Cursor.Result) : Except ClientError (Wire.Hit × α) :=
  match h with
  | .error e => .error e
  | .ok hit => (r.codec.decode hit.source).map fun document => (hit, document)

/-- The documents under a cursor up to the first failure, at most `n` of them. -/
def documentsUnder (r : Repository α) : (n : Nat) → Cursor →
    Program (Except ClientError (List α) × Cursor)
  | 0, c => .done (.ok [], c)
  | n + 1, c =>
    c.next.bind fun
      | (none, c) => .done (.ok [], c)
      | (some h, c) =>
        match r.decodeHit h with
        | .error e => .done (.error e, c)
        | .ok (_, document) =>
          (r.documentsUnder n c).bind fun rest => .done (rest.1.map (document :: ·), rest.2)

/-- Searches and reads the documents up to the first failure, at most `n` of them. -/
def searchDocuments (r : Repository α) (n : Nat) (query : Option Value) (o : SearchOptions) :
    Program (Except ClientError (List α)) :=
  (r.search query o).bind fun
    | .error e => .done (.error e)
    | .ok c => (r.documentsUnder n c).bind fun rest => .done rest.1

/-! ### Sessions -/

/-- Where the batches of a session go. -/
def outbox (r : Repository α) (config : SessionConfig) : Outbox α :=
  ⟨r.codec, r.config.writeTarget, config⟩

/-- A session that writes to the repository. -/
def session (r : Repository α) (config : SessionConfig) : Session α := .start (r.outbox config)

/-- A queued session that writes to the repository. -/
def queueSession (r : Repository α) (config : SessionConfig) : QueueSession α :=
  .start (r.outbox config)

/-- The result of a block of writes: its own failure comes before that of the close. -/
def blockResult (block : Except ClientError Unit) (closed : Except ClientError Stats) :
    Except ClientError Stats :=
  match block with
  | .ok () => closed
  | .error e => .error e

/-- Runs a block of writes in a session of its own, which is closed after it, also if the block
fails. Whatever else the block finds out is handed on. -/
def bulk (r : Repository α) (config : SessionConfig)
    (block : Session α → Program (β × Except ClientError Unit × Session α)) :
    Program (β × Except ClientError Stats × Session α) :=
  (block (r.session config)).bind fun b =>
    -- What waits is sent even if the block has failed.
    b.2.2.close.bind fun closed => .done (b.1, blockResult b.2.1 closed.1, closed.2)

/-- Runs a block of writes in a queued session of its own, which is closed after it, also if the
block fails. -/
def queuedBulk (r : Repository α) (config : SessionConfig)
    (block : QueueSession α → Program (β × Except ClientError Unit × QueueSession α)) :
    Program (β × Except ClientError Stats × QueueSession α) :=
  (block (r.queueSession config)).bind fun b =>
    b.2.2.close.bind fun s => .done (b.1, blockResult b.2.1 s.total, s)

end Repository

end VersionedStore
