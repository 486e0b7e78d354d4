import VersionedStore.Testing.Backend
import VersionedStore.Testing.Stress
import VersionedStore.View.Client
import VersionedStore.View.Settings
import VersionedStore.View.Store

/-!
# Views of tests

## Main definitions

* `View` of layers, tallies and stand-ins
* `Note.ofView`, `Reply.ofView`, `Backend.ofView`, `Shell.ofView` — what tests work on
-/

namespace VersionedStore

open Json

namespace View

instance : View CallCounts where
  view n :=
    .fields [("bulk", view n.bulk), ("bulk_actions", view n.actions), ("get", view n.get),
      ("write", view n.write), ("delete", view n.delete), ("search", view n.search),
      ("advance", view n.advance), ("release", view n.release), ("count", view n.count),
      ("refresh", view n.refresh), ("batch_sizes", view n.batches)]

instance : View Contention := ⟨fun s => .fields [("interferences", view s.rewritten)]⟩

instance : View Outage := ⟨fun _ => .fields []⟩

instance : View Shell where
  view
    | .counting n => view n
    | .contention s => view s
    | .outage s => view s

instance : View Memory where
  view m :=
    .fields [("batch_sizes", view (m.bulkCalls.map (·.length))), ("writes", view m.writes),
      ("advances", view m.advances), ("releases", view m.releases),
      ("refreshes", view m.refreshes), ("bulk_calls", view m.bulkCalls)]

instance : View Tally where
  view t :=
    .fields [("total", view t.total), ("successful", view t.succeeded), ("failed", view t.failed)]

instance : View Note := ⟨Note.codec.view⟩

end View

def Note.ofView (v : Value) : Note := ⟨v.text "title", (v.word? "count").getD 0⟩

def Request.ofView (v : Value) : Request := ⟨v.text "method", v.text "path", v.octets "body"⟩

/-- The reply of a view, or why there is none. -/
def Reply.ofView (v : Value) : Except String Reply :=
  match v.text? "fail" with
  | some reason => .error reason
  | none => .ok ⟨UInt16.ofNat (v.natural "status"), v.octets "body"⟩

def Backend.ofView (v : Value) : Backend :=
  match v.text "kind" with
  | "mock" => memory {}
  | "store" => server (Fixture.start (.ofView (v.field "config")))
  | _ => script ⟨⟨(v.elements "responses").map Reply.ofView, []⟩, none⟩

/-- The layer of a view. -/
def Shell.ofView (v : Value) : Shell :=
  match v.text "layer" with
  | "count" => counting {}
  | "contend" =>
    contention (((v.natural? "times").map fun n => .times (UInt32.ofNat n)).getD .always)
  | _ => outage ⟨v.natural "times"⟩

end VersionedStore
