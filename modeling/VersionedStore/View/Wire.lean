import VersionedStore.View.Basic
import VersionedStore.Wire.Document
import VersionedStore.Wire.Search

/-!
# Views of messages

## Main definitions

* `View` of versions, actions, outcomes, hits and pages
-/

namespace VersionedStore

open Json

namespace View

/-- JSON is shown as the text that it has. -/
def ofJson (v : Value) : Value := view v.compact

instance : View Version where
  view v := .fields [("seq", view v.sequence), ("epoch", view v.epoch)]

instance : View RefreshPolicy where
  view
    | .none => view "none"
    | .waitFor => view "wait_for"
    | .immediate => view "immediate"

instance : View FailureKind where
  view
    | .conflict => view "conflict"
    | .notFound => view "not_found"
    | .other => view "other"

instance : View Action.Kind := ⟨fun k => view k.word⟩

instance : View Action where
  view a :=
    .fields [("type", view a.kind), ("index", view a.index), ("id", view a.id),
      ("token", view a.version), ("source", view a.source)]

/-- The label of a fault of a message. -/
def wireLabel : Wire.Error → String
  | .json => "Json"
  | .bulk .. => "InvalidBulkBody"
  | .halfVersion => "IncompleteToken"
  | .noSource _ => "MissingSource"
  | .refreshPolicy _ => "InvalidRefreshPolicy"
  | .duration _ => "InvalidDuration"

instance : View Wire.Error where
  view e := .fields [("error", view (wireLabel e)), ("message", view e.message)]

instance : View Wire.Cause where
  view c := .fields [("type", view c.type), ("reason", view c.reason)]

instance : View Wire.Item where
  view i :=
    let o := i.outcome
    .fields [("type", view i.kind), ("index", view o.index), ("id", view o.id),
      ("status", view o.status), ("result", view o.result), ("seq_no", view o.sequence),
      ("primary_term", view o.epoch), ("error", view o.cause), ("success", view o.isSuccess),
      ("category", view o.failureKind?), ("token", view o.version),
      ("failure_message", view o.failureMessage)]

instance : View Wire.GetReply where
  view r :=
    .fields [("index", view r.index), ("id", view r.id), ("found", view r.found),
      ("token", view r.version), ("source", view r.sourceBytes)]

instance : View Wire.WriteReply where
  view r :=
    .fields [("index", view r.index), ("id", view r.id), ("result", view r.result),
      ("token", view r.version)]

instance : View Wire.RawHit where
  view h :=
    .fields [("index", view h.index), ("id", view h.id), ("seq_no", view h.sequence),
      ("primary_term", view h.epoch), ("source", view (h.source.map ofJson))]

instance : View Wire.Hit where
  view h := .fields [("id", view h.id), ("token", view h.version), ("source", view h.source)]

instance : View Wire.Total where
  view t :=
    .fields [("value", view t.value), ("relation", view t.relation.word), ("exact", view t.isExact)]

instance : View Wire.Page where
  view p :=
    .fields [("hits", view p.hits), ("total", view p.total), ("scroll_id", view p.handle)]

instance : View Wire.SearchReply where
  view r :=
    .fields [("scroll_id", view r.handle), ("took", view r.took), ("total", view r.total),
      ("hits", view r.hits)]

end View

end VersionedStore
