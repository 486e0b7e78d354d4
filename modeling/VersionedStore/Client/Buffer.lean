/-!
# Buffers

Items gather in a buffer until they are taken out together. A sealed buffer takes no more.

## Main definitions

* `Buffer` — the items that wait, and whether more may come
* `Buffer.append?`, `Buffer.take`, `Buffer.close` — the operations
-/

namespace VersionedStore

/-- Items that wait. -/
structure Buffer (ι : Type) where
  /-- The items, in the order in which they came. -/
  items : List ι
  /-- Whether no more items are taken. -/
  isSealed : Bool

namespace Buffer

variable {ι : Type}

/-- No items. -/
def empty : Buffer ι := ⟨[], false⟩

/-- The words for a refused item. -/
def refusal : String := "buffer is sealed"

/-- One more item, unless the buffer is sealed. -/
def append? (b : Buffer ι) (i : ι) : Option (Buffer ι) :=
  if b.isSealed then none else some { b with items := b.items ++ [i] }

/-- All items, and the buffer without them. -/
def take (b : Buffer ι) : List ι × Buffer ι := (b.items, { b with items := [] })

/-- All items, and the buffer sealed. -/
def close (b : Buffer ι) : List ι × Buffer ι := (b.items, ⟨[], true⟩)

/-- The number of items. -/
def size (b : Buffer ι) : Nat := b.items.length

end Buffer

end VersionedStore
