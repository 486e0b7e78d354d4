import VersionedStore.Client.Http
import VersionedStore.Client.Repository
import VersionedStore.Json.Access
import VersionedStore.Store.Basic

/-!
# Settings

Configurations and requests that are given as JSON objects. What an object leaves out has its
default.

## Main definitions

* `Version.ofView?`, `RefreshPolicy.ofView?`, `Action.ofView`, `Intent.ofView`,
  `WriteRequest.ofView`, `Wire.Page.ofView` — what is written and found
* `StoreConfig.ofView`, `RetryConfig.ofView`, `SessionConfig.ofView`, `RepositoryConfig.ofView`,
  `SearchOptions.ofView`, `HttpConfig.ofView` — configurations
-/

namespace VersionedStore

open Json

/-- A member that is a number of milliseconds. -/
def Duration.member? (v : Value) (key : String) : Option Duration :=
  (v.natural? key).map ofMilliseconds

/-- A member that is a number of milliseconds; none if it is missing. -/
def Duration.member (v : Value) (key : String) : Duration := (member? v key).getD zero

/-! ### Writes -/

def Version.ofView (v : Value) : Version :=
  ⟨(v.word? "epoch").getD 0, (v.word? "seq").getD 0⟩

def Version.member? (v : Value) (key : String) : Option Version := (v.field? key).map ofView

/-- A member that is a version; the least one if it is missing. -/
def Version.member (v : Value) (key : String) : Version := (member? v key).getD ⟨0, 0⟩

def RefreshPolicy.ofWord : String → RefreshPolicy
  | "wait_for" => .waitFor
  | "immediate" => .immediate
  | _ => .none

def RefreshPolicy.member? (v : Value) : Option RefreshPolicy := (v.text? "refresh").map ofWord

/-- A member that is a refresh policy; writes become visible later if it is missing. -/
def RefreshPolicy.member (v : Value) : RefreshPolicy := (member? v).getD none

def Action.Kind.ofView (word : String) : Kind := (ofWord? word).getD .index

def Action.ofView (v : Value) : Action where
  kind := Kind.ofView (v.text "type")
  index := v.text? "index"
  id := v.text? "id"
  version := Version.member? v "token"
  source := v.octets? "source"

def Intent.ofView (v : Value) : Intent :=
  match v.text "kind" with
  | "create" => create (v.text? "id") (v.octets "payload")
  | "upsert" => upsert (v.text "id") (v.octets "payload")
  | "conditional_update" => update (v.text "id") (Version.member v "token") (v.octets "payload")
  | _ => delete (v.text "id") (Version.member? v "token")

/-- A write with the id and the version that are given. -/
def WriteRequest.given (v : Value) : WriteRequest :=
  match v.text? "id", Version.member? v "token" with
  | some id, some version => guarded id (v.octets "payload") version
  | id, required => { put id (v.octets "payload") with required }

def WriteRequest.ofView (v : Value) : WriteRequest :=
  let w := given v
  { w with
    mode := match v.text? "mode" with
      | some "create" => .create
      | some _ => .index
      | none => w.mode
    refresh := (RefreshPolicy.member? v).getD w.refresh }

/-! ### Pages -/

def Wire.Hit.ofView (v : Value) : Hit := ⟨v.text "id", Version.member? v "token", v.octets "source"⟩

def Wire.Total.ofView (v : Value) : Total :=
  ⟨(v.word? "value").getD 0, (TotalRelation.ofWord? (v.text "relation" "eq")).getD .exact⟩

def Wire.Page.ofView (v : Value) : Page :=
  ⟨(v.elements "hits").map Hit.ofView, Total.ofView (v.field "total"), v.text? "scroll_id"⟩

/-! ### Configurations -/

/-- The limits of a store. -/
def StoreConfig.ofView (v : Value) : StoreConfig :=
  let d : StoreConfig := {}
  { maxActions := v.natural "max_bulk_actions" d.maxActions
    maxPage := ((v.natural? "max_page_size").map UInt32.ofNat).getD d.maxPage
    maxLease := (Duration.member? v "max_scroll_ttl_ms").getD d.maxLease
    epoch := (v.word? "primary_term").getD d.epoch }

/-- Attempts without pauses if nothing else is said. -/
def RetryConfig.ofView (v : Value) : RetryConfig :=
  (ofLimit (v.natural "max" standard.limit)).within (Duration.member v "min_ms")
    (Duration.member v "max_ms")

/-- How a session works; `size` is the size of the batches where none is given. -/
def SessionConfig.ofView (size : Nat) (v : Value) : SessionConfig :=
  let d : SessionConfig := {}
  { batchSize := v.natural "batch_size" size
    retries := v.natural "retry" d.retries
    refresh := (RefreshPolicy.member? v).getD d.refresh
    watched := v.flag "callback" }

/-- How a repository works; `retry` is how often updates are tried where nothing is said. -/
def RepositoryConfig.ofView (retry : RetryConfig) (v : Value) : RepositoryConfig where
  index := v.text "index" "things"
  readAlias := v.text? "read_alias"
  writeAlias := v.text? "write_alias"
  refreshAllowed := v.flag "refresh_allowed"
  retry := ((v.field? "retry").map RetryConfig.ofView).getD retry
  refresh := RefreshPolicy.member v

/-- How a search is carried out: its mode with the size of its pages, then its lease. -/
def SearchOptions.ofView (v : Value) : SearchOptions :=
  let size := UInt32.ofNat (v.natural "size" 10)
  let o := match v.text? "mode" with
    | some "scrolling" => scrolling size
    | some "single" => single size
    | _ => standard
  { o with lease := (Duration.member? v "ttl_ms").or o.lease }

/-- The address of a store; `url` is the one where none is given. -/
def HttpConfig.ofView (url : String) (v : Value) : HttpConfig :=
  let c := ofUrl (v.text "url" url)
  { c with timeout := (Duration.member? v "timeout_ms").getD c.timeout }

end VersionedStore
