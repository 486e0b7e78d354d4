import VersionedStore.Proofs.Wire.Searches

/-!
# Messages are read back

The store and its clients send each other messages of eleven kinds. Each is written as a record of
its fields, and what is read off the octets is the message that was written: whatever its strings
and numbers are, and whichever of its fields are left out. Only a JSON value that is null is lost,
as a null stands for a field that is left out.

## Main definitions

* `Wire.Message` — a message of any kind
* `Wire.Message.write`, `Wire.Message.parse?` — to and from octets
* `Wire.Message.values` — the JSON values that a message carries
* `Wire.Message.withoutNulls` — the message with its nulls left out

## Main results

* `Wire.Message.parse?_write_arrived` — a message is read as it was written, with its values as
  they arrive
* `Wire.Message.reads_written` — where the values are read as they were written, the
  message is
-/

namespace VersionedStore.Wire

open Json

/-- The reply to a reading is read as it was written, with its document as it arrives. -/
theorem GetReply.parse?_toText {r : GetReply} (fits : ∀ v ∈ r.source, v.Proper ∧ v.depth ≤ 126) :
    parse? read r.toText.write = some { r with source := arrived r.source } := by
  rw [parse?_toText_eq, value_arrives r.source fits, Option.map_some]

/-- The answer to a search is read as it was written, with its documents as they arrive. -/
theorem SearchReply.parse?_toText_arrived {r : SearchReply}
    (fits : ∀ h ∈ r.hits, ∀ v ∈ h.source, v.Proper ∧ v.depth ≤ 123) :
    parse? read r.toText.write =
      some { r with hits := r.hits.map fun h => { h with source := arrived h.source } } := by
  rw [parse?_toText_eq, Reader.list_array_map _ _ _ fun h hh =>
    RawHit.read_toText_arrived (fits h hh), Option.map_some]

/-! ## Messages of all kinds -/

/-- What the store and its clients send each other. -/
inductive Message
  | failure (m : Failure)
  | bulkReply (m : BulkReply)
  | getReply (m : GetReply)
  | writeReply (m : WriteReply)
  | searchBody (m : SearchBody)
  | searchReply (m : SearchReply)
  | scrollBody (m : ScrollBody)
  | clearBody (m : ClearBody)
  | clearReply (m : ClearReply)
  | countBody (m : CountBody)
  | countReply (m : CountReply)

namespace Message

/-- The kinds of messages. A reader knows which kind it reads. -/
inductive Kind
  | failure
  | bulkReply
  | getReply
  | writeReply
  | searchBody
  | searchReply
  | scrollBody
  | clearBody
  | clearReply
  | countBody
  | countReply
deriving DecidableEq

def kind : Message → Kind
  | failure _ => .failure
  | bulkReply _ => .bulkReply
  | getReply _ => .getReply
  | writeReply _ => .writeReply
  | searchBody _ => .searchBody
  | searchReply _ => .searchReply
  | scrollBody _ => .scrollBody
  | clearBody _ => .clearBody
  | clearReply _ => .clearReply
  | countBody _ => .countBody
  | countReply _ => .countReply

/-- The octets of a message. -/
def write : Message → Bytes
  | failure m => m.toText.write
  | bulkReply m => m.toText.write
  | getReply m => m.toText.write
  | writeReply m => m.toText.write
  | searchBody m => m.toText.write
  | searchReply m => m.toText.write
  | scrollBody m => m.toText.write
  | clearBody m => m.toText.write
  | clearReply m => m.toText.write
  | countBody m => m.toText.write
  | countReply m => m.toText.write

/-- The message of a kind that some octets hold. -/
def parse? (body : Bytes) : Kind → Option Message
  | .failure => (Wire.parse? Failure.read body).map failure
  | .bulkReply => (Wire.parse? BulkReply.read body).map bulkReply
  | .getReply => (Wire.parse? GetReply.read body).map getReply
  | .writeReply => (Wire.parse? WriteReply.read body).map writeReply
  | .searchBody => (Wire.parse? SearchBody.read body).map searchBody
  | .searchReply => (Wire.parse? SearchReply.read body).map searchReply
  | .scrollBody => (Wire.parse? ScrollBody.read body).map scrollBody
  | .clearBody => (Wire.parse? ClearBody.read body).map clearBody
  | .clearReply => (Wire.parse? ClearReply.read body).map clearReply
  | .countBody => (Wire.parse? CountBody.read body).map countBody
  | .countReply => (Wire.parse? CountReply.read body).map countReply

/-- The JSON values that a message carries. -/
def values : Message → List Value
  | getReply m => m.source.toList
  | searchBody m => m.query.toList
  | searchReply m => m.hits.filterMap RawHit.source
  | countBody m => m.query.toList
  | _ => []

/-- A message with its optional values replaced. -/
def mapValues (f : Option Value → Option Value) : Message → Message
  | getReply m => getReply { m with source := f m.source }
  | searchBody m => searchBody { m with query := f m.query }
  | searchReply m =>
    searchReply { m with hits := m.hits.map fun h => { h with source := f h.source } }
  | countBody m => countBody { m with query := f m.query }
  | m => m

/-- A value that is null is none. -/
def withoutNull : Option Value → Option Value
  | some .null => none
  | v => v

/-- A message that leaves out what is null. -/
def withoutNulls (m : Message) : Message := m.mapValues withoutNull

variable {f g : Option Value → Option Value} {m : Message}

/-- Only the values that a message carries are replaced. -/
theorem mapValues_congr (absent : f none = g none)
    (carried : ∀ v ∈ m.values, f (some v) = g (some v)) : m.mapValues f = m.mapValues g := by
  have optional : ∀ o : Option Value, (∀ v ∈ o, v ∈ m.values) → f o = g o := by
    intro o among
    cases o with
    | none => exact absent
    | some v => exact carried v (among v rfl)
  cases m with
  | getReply r =>
    rw [mapValues, mapValues, optional r.source fun v hv => Option.mem_toList.2 hv]
  | searchBody b =>
    rw [mapValues, mapValues, optional b.query fun v hv => Option.mem_toList.2 hv]
  | countBody b =>
    rw [mapValues, mapValues, optional b.query fun v hv => Option.mem_toList.2 hv]
  | searchReply r =>
    have hits : (r.hits.map fun h => { h with source := f h.source }) =
        r.hits.map fun h => { h with source := g h.source } := by
      refine List.map_congr_left fun h hh => ?_
      rw [optional h.source fun v hv => List.mem_filterMap.2 ⟨h, hh, hv⟩]
    rw [mapValues, mapValues, hits]
  | _ => rfl

theorem mapValues_id (m : Message) : m.mapValues id = m := by
  cases m with
  | searchReply r => simp [mapValues]
  | _ => rfl

/-- A message without nulls loses nothing. -/
theorem withoutNulls_eq (present : ∀ v ∈ m.values, v ≠ .null) : m.withoutNulls = m := by
  have kept : m.mapValues withoutNull = m.mapValues id := by
    refine mapValues_congr rfl fun v hv => ?_
    cases v with
    | null => exact absurd rfl (present _ hv)
    | _ => rfl
  rw [withoutNulls, kept, mapValues_id]

/-! ## Reading what was written -/

/-- A message is read as it was written, with its values as they arrive. -/
theorem parse?_write_arrived (fits : ∀ v ∈ m.values, v.Proper ∧ v.depth ≤ 123) :
    parse? m.write m.kind = some (m.mapValues arrived) := by
  have within : ∀ v ∈ m.values, v.Proper ∧ v.depth ≤ 126 := fun v hv =>
    ⟨(fits v hv).1, Nat.le_trans (fits v hv).2 (by decide)⟩
  cases m with
  | failure m => exact congrArg (Option.map failure) m.parse?_toText
  | bulkReply m => exact congrArg (Option.map bulkReply) m.parse?_toText
  | writeReply m => exact congrArg (Option.map writeReply) m.parse?_toText
  | scrollBody m => exact congrArg (Option.map scrollBody) m.parse?_toText
  | clearBody m => exact congrArg (Option.map clearBody) m.parse?_toText
  | clearReply m => exact congrArg (Option.map clearReply) m.parse?_toText
  | countReply m => exact congrArg (Option.map countReply) m.parse?_toText
  | getReply m =>
    have read := GetReply.parse?_toText (r := m) fun v hv => within v (Option.mem_toList.2 hv)
    exact congrArg (Option.map getReply) read
  | searchBody m =>
    have read := m.parse?_toText fun v hv => within v (Option.mem_toList.2 hv)
    exact congrArg (Option.map searchBody) read
  | countBody m =>
    have shallow : ∀ v ∈ m.query, v.Proper ∧ v.depth ≤ 126 :=
      fun v hv => within v (Option.mem_toList.2 hv)
    exact congrArg (Option.map countBody) (CountBody.parse?_toText shallow)
  | searchReply m =>
    have read := SearchReply.parse?_toText_arrived (r := m) fun h hh v hv =>
      fits v (List.mem_filterMap.2 ⟨h, hh, hv⟩)
    exact congrArg (Option.map searchReply) read

/-- A value that is read as it was written arrives as it is, unless it is null. -/
theorem arrived_of_undone {v : Value} (undone : Value.parse? v.write = some v) :
    arrived (some v) = withoutNull (some v) := by
  have again := Value.parse?_write_of_proper (Value.proper_of_parse? undone)
    (Value.depth_le_of_parse? undone)
  have steady : v.reread = v := Option.some.inj (again.symm.trans undone)
  cases v with
  | null => rfl
  | _ => exact congrArg some steady

/-- Where JSON values are read as they were written, so are the messages that carry them, but that
a null is left out; a message without nulls is written again with the same octets. -/
theorem reads_written (m : Message)
    (undone : ∀ v ∈ m.values, Value.parse? v.write = some v)
    (shallow : ∀ v ∈ m.values, v.depth ≤ 120) :
    parse? m.write m.kind = some m.withoutNulls ∧
      ((∀ v ∈ m.values, v ≠ .null) →
        m.withoutNulls = m ∧ m.withoutNulls.write = m.write) := by
  have fits : ∀ v ∈ m.values, v.Proper ∧ v.depth ≤ 123 := fun v hv =>
    ⟨Value.proper_of_parse? (undone v hv), Nat.le_trans (shallow v hv) (by decide)⟩
  have arrives : m.mapValues arrived = m.withoutNulls :=
    mapValues_congr rfl fun v hv => arrived_of_undone (undone v hv)
  refine ⟨?_, fun present => ?_⟩
  · rw [parse?_write_arrived fits, arrives]
  · have same := withoutNulls_eq present
    exact ⟨same, congrArg write same⟩

/-- An answer to a search with two hits, one of which has a null for its document. -/
def mixedAnswer : Message :=
  searchReply ⟨none, 3, ⟨2, .lowerBound⟩,
    [⟨"things", "a", some 0, none, some .null⟩,
      ⟨"", "\"\n", none, some 18446744073709551615,
        some (.object [("x", .array [.bool true, .string "\t"])])⟩]⟩

theorem reads_written_mixedAnswer :
    (∀ v ∈ mixedAnswer.values, Value.parse? v.write = some v) ∧
      (∀ v ∈ mixedAnswer.values, v.depth ≤ 120) ∧
      parse? mixedAnswer.write mixedAnswer.kind = some mixedAnswer.withoutNulls := by
  have undone : ∀ v ∈ mixedAnswer.values, Value.parse? v.write = some v := by
    intro v hv
    simp only [mixedAnswer, values, List.filterMap_cons, List.filterMap_nil, List.mem_cons,
      List.not_mem_nil, or_false] at hv
    obtain rfl | rfl := hv
    · rfl
    · have proper : Value.Proper (.object [("x", .array [.bool true, .string "\t"])]) :=
        ⟨List.pairwise_singleton _ _, ⟨trivial, trivial, trivial⟩, trivial⟩
      exact Value.parse?_write_of_proper proper (by decide)
  have shallow : ∀ v ∈ mixedAnswer.values, v.depth ≤ 120 := by
    decide
  exact ⟨undone, shallow, (reads_written mixedAnswer undone shallow).1⟩

end Message

end VersionedStore.Wire
