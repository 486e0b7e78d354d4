import VersionedStore.Data.Hexadecimal
import VersionedStore.Json.Value

/-!
# Views

What the parts of the library hold can be looked at as JSON, in logs and in reports of tests.

## Main definitions

* `View` — types whose values have a view
* `Json.Value.fields`, `Json.Value.extend` — objects from their members
-/

namespace VersionedStore

open Json

/-- Types whose values can be looked at as JSON. -/
class View (α : Type) where
  view : α → Value

export View (view)

namespace Json.Value

/-- An object with further members. -/
def extend (v : Value) (ms : List (String × Value)) : Value :=
  match v with
  | object es => object (ms.foldl (fun es m => Entries.insert m.1 m.2 es) es)
  | v => v

/-- The object of the given members. -/
def fields (ms : List (String × Value)) : Value := extend (object []) ms

end Json.Value

namespace View

variable {α β ε : Type}

instance : View Value := ⟨id⟩

instance : View String := ⟨.string⟩

instance : View Bool := ⟨.bool⟩

instance : View Unit := ⟨fun _ => .null⟩

instance : View UInt64 := ⟨fun n => .number (.unsigned n)⟩

instance : View Nat := ⟨fun n => view (UInt64.ofNat n)⟩

instance : View UInt32 := ⟨fun n => view n.toNat⟩

instance : View UInt16 := ⟨fun n => view n.toNat⟩

instance [View α] : View (Option α) where
  view
    | none => .null
    | some a => view a

instance [View α] : View (List α) := ⟨fun as => .array (as.map view)⟩

instance [View α] [View β] : View (α × β) := ⟨fun p => .array [view p.1, view p.2]⟩

instance [View ε] [View α] : View (Except ε α) where
  view
    | .error e => view e
    | .ok a => view a

/-- The hexadecimal digits of octets. -/
def digits (bs : Bytes) : Bytes :=
  bs.flatMap fun b =>
    [Hexadecimal.lower (Hexadecimal.high b), Hexadecimal.lower (Hexadecimal.low b)].map octet

/-- Octets are shown as a text if they are one, else as their hexadecimal digits. -/
def ofOctets (bs : Bytes) : Value :=
  match Utf8.decode? bs with
  | some s => view s
  | none => .fields [("hex", view (Utf8.decodeLossy (digits bs)))]

instance : View Bytes := ⟨ofOctets⟩

end View

end VersionedStore
