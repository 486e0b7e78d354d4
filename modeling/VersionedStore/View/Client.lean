import VersionedStore.Client.Http
import VersionedStore.Client.Repository
import VersionedStore.View.Wire

/-!
# Views of clients

## Main definitions

* `View` of failures, acknowledgements, reports, totals, cursors, requests and configurations
* `Codec.view` — a document as its JSON
-/

namespace VersionedStore

open Json

namespace View

/-- The label of a failure. -/
def clientLabel : ClientError → String
  | .conflict .. => "Conflict"
  | .notFound _ => "NotFound"
  | .transport .. => "Transport"
  | .server .. => "Server"
  | .answer _ => "Protocol"
  | .codec _ => "Codec"
  | .sessionClosed => "SessionClosed"
  | .exhausted .. => "UpdateExhausted"
  | .invalidVersion _ => "InvalidToken"
  | .refreshNotAllowed => "RefreshNotAllowed"
  | .cancelled => "Cancelled"

instance : View ClientError where
  view e :=
    .fields [("error", view (clientLabel e)), ("message", view e.message),
      ("category", view e.failureKind), ("retryable", view e.isRetryable),
      ("conflict", view e.isConflict)]

/-! ### Calls -/

instance : View Stored where
  view d := .fields [("id", view d.id), ("token", view d.version), ("source", view d.source)]

instance : View Acknowledgement where
  view a := .fields [("id", view a.id), ("token", view a.version), ("result", view a.result)]

instance : View Updated where
  view u := .fields [("ack", view u.acknowledgement), ("attempts", view u.attempts)]

instance : View WriteRequest where
  view w :=
    .fields [("id", view w.id), ("payload", view w.payload), ("token", view w.required),
      ("mode", view w.mode.word), ("refresh", view w.refresh)]

instance : View HttpRequest where
  view r :=
    .fields [("method", view r.method), ("url", view r.url),
      ("timeout_ms", view r.timeout.milliseconds), ("body", view r.body)]

/-! ### Sessions -/

instance : View Intent.Kind := ⟨fun k => view k.word⟩

instance : View Report.Status where
  view
    | .succeeded version => .fields [("is", view "succeeded"), ("token", view version)]
    | .retried attempts version =>
      .fields [("is", view "retried"), ("attempts", view attempts), ("token", view version)]
    | .failed kind reason =>
      .fields [("is", view "failed"), ("category", view kind), ("message", view reason)]

instance : View Report where
  view r :=
    .fields [("position", view r.position), ("kind", view r.kind), ("id", view r.id),
      ("status", view r.status)]

instance : View BatchOutcome where
  view o :=
    .fields [("succeeded", view o.succeeded), ("failed", view o.failed),
      ("retried", view o.retried), ("items", view o.items), ("clean", view o.isClean),
      ("failures", view (o.failures.map (·.position))), ("reports", view o.reports)]

instance : View Stats where
  view s :=
    .fields [("batches", view s.batches), ("items", view s.items),
      ("succeeded", view s.succeeded), ("failed", view s.failed), ("retried", view s.retried)]

instance : View Notice where
  view
    | .toItem r => .fields [("by", view "item"), ("report", view r)]
    | .toSession r => .fields [("by", view "session"), ("report", view r)]

/-! ### Searches -/

instance : View Cursor where
  view c :=
    .fields [("total", view c.total), ("scroll_id", view c.handle), ("pages", view c.pages),
      ("exhausted", view c.isExhausted)]

/-! ### Configurations -/

instance : View RetryConfig where
  view r :=
    .fields [("max", view r.limit), ("min_ms", view r.least.milliseconds),
      ("max_ms", view r.greatest.milliseconds)]

instance : View RepositoryConfig where
  view c :=
    .fields [("index", view c.index), ("read", view c.readTarget), ("write", view c.writeTarget),
      ("refresh_allowed", view c.refreshAllowed), ("refresh", view c.refresh),
      ("retry", view c.retry)]

instance : View SessionConfig where
  view c :=
    .fields [("batch_size", view c.batchSize), ("effective", view c.threshold),
      ("retry", view c.retries), ("refresh", view c.refresh), ("callback", view c.watched),
      ("debug", view c.describe.text)]

instance : View SearchOptions where
  view o :=
    .fields [("page_size", view o.pageSize), ("scroll_ms", view (o.lease.map (·.milliseconds)))]

instance : View HttpConfig where
  view c := .fields [("base_url", view c.base), ("timeout_ms", view c.timeout.milliseconds)]

end View

/-- A document as its JSON. -/
def Codec.view {α : Type} (c : Codec α) (document : α) : Value :=
  VersionedStore.view (c.encode document)

end VersionedStore
