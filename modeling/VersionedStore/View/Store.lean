import VersionedStore.Server.Basic
import VersionedStore.View.Wire

/-!
# Views of the store

## Main definitions

* `View` of refusals, queries, replies and the limits of a store
-/

namespace VersionedStore

open Json

namespace View

/-- The label of a refusal. -/
def storeLabel : StoreError → String
  | .request _ => "InvalidRequest"
  | .conflict .. => "VersionConflict"
  | .documentMissing _ => "DocumentMissing"
  | .indexMissing _ => "IndexNotFound"
  | .cursorMissing _ => "ScrollMissing"
  | .noRoute .. => "NoHandler"
  | .internal _ => "Internal"
  | .json => "Json"
  | .wire _ => "Protocol"

instance : View StoreError where
  view e :=
    .fields [("error", view (storeLabel e)), ("message", view e.message),
      ("status", view e.status), ("type", view e.type), ("client_error", view e.isClientError)]

instance : View QueryFault := ⟨fun fault => view (StoreError.request (.query fault))⟩

instance : View Query where
  view
    | .all => .fields [("is", view "match_all")]
    | .nothing => .fields [("is", view "match_none")]
    | .term name value =>
      .fields [("is", view "term"), ("field", view name), ("value", ofJson value)]
    | .ids chosen =>
      let sorted : Table Unit := Table.ofList (chosen.map fun i => (i, ()))
      .fields [("is", view "ids"), ("ids", view (sorted.toList.map (·.1)))]

instance : View Reply where
  view r :=
    .fields [("status", view r.status), ("success", view r.isSuccess), ("body", view r.body)]

instance : View StoreConfig where
  view c :=
    .fields [("max_bulk_actions", view c.maxActions), ("max_page_size", view c.maxPage),
      ("max_scroll_ttl_ms", view c.maxLease.milliseconds), ("primary_term", view c.epoch)]

end View

end VersionedStore
