import VersionedStore.Proofs.Json.Record
import VersionedStore.Wire.Document

/-!
# Replies are read back

The messages of the store are read back by its clients as they were written, whatever texts
they carry. The document in the reply to a reading is read as the value of its written form.

## Main results

* `Failure.parse?_toText`, `BulkReply.parse?_toText`, `WriteReply.parse?_toText`,
  `GetReply.parse?_toText_eq` — what a client reads off the octets of a reply
-/

namespace VersionedStore.Wire

open Json

variable (level : Nat)

theorem parse?_write {α : Type} (read : Reader α) {t : Text} (h : t.WellFormed) :
    parse? read t.write = read nestingLimit t := by
  rw [parse?, Text.parse?_write h, Option.bind_some]

/-! ## Items -/

namespace Cause

theorem wellFormed_toText (c : Cause) : c.toText.WellFormed := by
  refine Text.wellFormed_ofMembers ?_
  simp [Text.wellFormed_ofString]

@[simp] theorem read_toText (c : Cause) : read (level + 1) c.toText = some c := by
  rw [read, toText, Record.ofText?_ofMembers (List.Sublist.refl _) (by decide)]
  simp only [Option.bind_eq_bind, Option.bind_some]
  rw [Record.required_of_lookup (List.lookup_cons_self), Record.required_of_lookup rfl]
  simp

theorem nullable_toText (c : Cause) :
    Reader.nullable read (level + 1) c.toText = some (some c) := by
  rw [toText, Reader.nullable_ofMembers, ← toText, read_toText, Option.map_some]

end Cause

namespace Failure

theorem wellFormed_toText (f : Failure) : f.toText.WellFormed := by
  refine Text.wellFormed_ofMembers ?_
  simp [f.cause.wellFormed_toText, Text.wellFormed_ofNat]

/-- The reply to a request that failed is read as it was written. -/
theorem parse?_toText (f : Failure) : parse? read f.toText.write = some f := by
  rw [parse?_write _ f.wellFormed_toText, read, toText, nestingLimit,
    Record.ofText?_ofMembers (List.Sublist.refl _) (by decide)]
  simp only [Option.bind_eq_bind, Option.bind_some]
  rw [Record.required_of_lookup List.lookup_cons_self, Cause.read_toText, Option.bind_some,
    Record.required_of_lookup (by simp [List.lookup_cons]; rfl), Reader.word16_ofNat]
  rfl

end Failure

namespace Outcome

theorem wellFormed_toText (o : Outcome) : o.toText.WellFormed := by
  refine Text.wellFormed_ofMembers ?_
  simp only [List.forall_mem_append]
  refine ⟨⟨⟨⟨⟨⟨?_, ?_⟩, ?_⟩, ?_⟩, ?_⟩, ?_⟩, ?_⟩
  · exact Record.wellFormed_given _ _ Text.wellFormed_ofString
  · exact Record.wellFormed_given _ _ Text.wellFormed_ofString
  · simp [Text.wellFormed_ofNat]
  · exact Record.wellFormed_given _ _ fun n => Text.wellFormed_ofNat n.toNat
  · exact Record.wellFormed_given _ _ fun n => Text.wellFormed_ofNat n.toNat
  · exact Record.wellFormed_given _ _ Text.wellFormed_ofString
  · exact Record.wellFormed_given _ _ Cause.wellFormed_toText

@[simp] theorem read_toText (o : Outcome) : read (level + 2) o.toText = some o := by
  have names : ((Record.given "_index" Text.ofString o.index ++
      Record.given "_id" Text.ofString o.id ++ [("status", Text.ofNat o.status.toNat)] ++
      Record.given "_seq_no" (fun n : UInt64 => Text.ofNat n.toNat) o.sequence ++
      Record.given "_primary_term" (fun n : UInt64 => Text.ofNat n.toNat) o.epoch ++
      Record.given "result" Text.ofString o.result ++
      Record.given "error" Cause.toText o.cause).map Prod.fst).Sublist
      (fields.map Field.name) := by
    simp only [List.map_append]
    exact ((((((Record.sublist_given _ _ _).append (Record.sublist_given _ _ _)).append
      (List.Sublist.refl _)).append (Record.sublist_given _ _ _)).append
      (Record.sublist_given _ _ _)).append (Record.sublist_given _ _ _)).append
      (Record.sublist_given _ _ _)
  rw [read, toText, Record.ofText?_ofMembers names (by decide)]
  simp only [Option.bind_eq_bind, Option.bind_some]
  rw [Record.optional_of_lookup o.index Text.ofString
      (by simp [List.lookup_append, List.lookup_cons]) (by simp),
    Option.bind_some,
    Record.optional_of_lookup o.id Text.ofString
      (by simp [List.lookup_append, List.lookup_cons]) (by simp),
    Option.bind_some,
    Record.required_of_lookup (by simp [List.lookup_append]; rfl),
    Reader.word16_ofNat, Option.bind_some,
    Record.optional_of_lookup o.sequence (fun n => Text.ofNat n.toNat)
      (by simp [List.lookup_append, List.lookup_cons]) (by simp),
    Option.bind_some,
    Record.optional_of_lookup o.epoch (fun n => Text.ofNat n.toNat)
      (by simp [List.lookup_append, List.lookup_cons]) (by simp),
    Option.bind_some,
    Record.optional_of_lookup o.result Text.ofString
      (by simp [List.lookup_append, List.lookup_cons]) (by simp),
    Option.bind_some,
    Record.optional_of_lookup o.cause Cause.toText (by simp [List.lookup_append, List.lookup_cons])
      fun c _ => Cause.nullable_toText _ c]
  rfl

end Outcome

namespace Item

theorem wellFormed_toText (i : Item) : i.toText.WellFormed := by
  refine Text.wellFormed_ofMembers ?_
  rw [List.forall_mem_singleton]
  exact i.outcome.wellFormed_toText

@[simp] theorem read_toText (i : Item) : read (level + 3) i.toText = some i := by
  have kind : Action.Kind.ofWord? i.kind.word = some i.kind := by cases i.kind <;> rfl
  rw [read, toText, Record.tagged?_ofMembers, readTagged, kind, Outcome.read_toText]
  rfl

end Item

namespace BulkReply

theorem wellFormed_toText (r : BulkReply) : r.toText.WellFormed := by
  refine Text.wellFormed_ofMembers ?_
  simp only [List.forall_mem_cons, List.not_mem_nil, false_imp_iff, implies_true, and_true]
  refine ⟨Text.wellFormed_ofNat _, trivial, Text.wellFormed_array ?_⟩
  intro t ht
  obtain ⟨i, -, rfl⟩ := List.mem_map.1 ht
  exact i.wellFormed_toText

/-- The reply to a bulk request is read as it was written. -/
theorem parse?_toText (r : BulkReply) : parse? read r.toText.write = some r := by
  rw [parse?_write _ r.wellFormed_toText, read, toText, nestingLimit,
    Record.ofText?_ofMembers (List.Sublist.refl _) (by decide)]
  simp only [Option.bind_eq_bind, Option.bind_some]
  rw [Record.orDefault_of_lookup List.lookup_cons_self, Reader.word64_ofNat, Option.bind_some,
    Record.required_of_lookup (by simp [List.lookup_cons]; rfl), Reader.bool_bool,
    Option.bind_some, Record.required_of_lookup (by simp [List.lookup_cons]; rfl),
    Reader.list_array _ _ fun i _ => Item.read_toText _ i]
  rfl

end BulkReply

/-! ## Single documents -/

namespace WriteReply

theorem wellFormed_toText (r : WriteReply) : r.toText.WellFormed := by
  refine Text.wellFormed_ofMembers ?_
  simp [Text.wellFormed_ofString, Text.wellFormed_ofNat]

/-- The reply to a write is read as it was written. -/
theorem parse?_toText (r : WriteReply) : parse? read r.toText.write = some r := by
  rw [parse?_write _ r.wellFormed_toText, read, toText, nestingLimit,
    Record.ofText?_ofMembers (List.Sublist.refl _) (by decide)]
  simp only [Option.bind_eq_bind, Option.bind_some]
  rw [Record.orDefault_of_lookup List.lookup_cons_self, Reader.string_ofString,
    Option.bind_some, Record.required_of_lookup (by simp [List.lookup_cons]; rfl),
    Reader.string_ofString, Option.bind_some,
    Record.required_of_lookup (by simp [List.lookup_cons]; rfl), Reader.string_ofString,
    Option.bind_some, Record.required_of_lookup (by simp [List.lookup_cons]; rfl),
    Reader.word64_ofNat, Option.bind_some,
    Record.required_of_lookup (by simp [List.lookup_cons]; rfl), Reader.word64_ofNat]
  rfl

end WriteReply

namespace GetReply

theorem wellFormed_toText (r : GetReply) : r.toText.WellFormed := by
  refine Text.wellFormed_ofMembers ?_
  simp only [List.forall_mem_append]
  refine ⟨⟨⟨?_, ?_⟩, ?_⟩, ?_⟩
  · simp only [List.forall_mem_cons, List.not_mem_nil, false_imp_iff, implies_true, and_true]
    exact ⟨Text.wellFormed_ofString _, Text.wellFormed_ofString _, trivial⟩
  · exact Record.wellFormed_given _ _ fun n => Text.wellFormed_ofNat n.toNat
  · exact Record.wellFormed_given _ _ fun n => Text.wellFormed_ofNat n.toNat
  · exact Record.wellFormed_given _ _ Value.wellFormed_toText

/-- The reply to a reading is read as it was written if its document is read. -/
theorem parse?_toText_eq (r : GetReply) : parse? read r.toText.write =
    (r.source.elim (some none) fun v => Reader.nullable Reader.value 126 v.toText).map fun source =>
        { r with source } := by
  have names : (([("_index", Text.ofString r.index), ("_id", Text.ofString r.id),
      ("found", Text.bool r.found)] ++
      Record.given "_seq_no" (fun n : UInt64 => Text.ofNat n.toNat) r.sequence ++
      Record.given "_primary_term" (fun n : UInt64 => Text.ofNat n.toNat) r.epoch ++
      Record.given "_source" Value.toText r.source).map Prod.fst).Sublist
      (fields.map Field.name) := by
    simp only [List.map_append]
    exact (((List.Sublist.refl _).append (Record.sublist_given _ _ _)).append
      (Record.sublist_given _ _ _)).append (Record.sublist_given _ _ _)
  rw [parse?_write _ r.wellFormed_toText, read, toText, nestingLimit,
    Record.ofText?_ofMembers names (by decide)]
  simp only [Option.bind_eq_bind, Option.bind_some]
  rw [Record.orDefault_of_lookup (by simp; rfl), Reader.string_ofString,
    Option.bind_some, Record.required_of_lookup (by simp [List.lookup_cons]; rfl),
    Reader.string_ofString, Option.bind_some,
    Record.required_of_lookup (by simp [List.lookup_cons]; rfl), Reader.bool_bool,
    Option.bind_some,
    Record.optional_of_lookup r.sequence (fun n => Text.ofNat n.toNat)
      (by simp [List.lookup_append, List.lookup_cons]) (by simp),
    Option.bind_some,
    Record.optional_of_lookup r.epoch (fun n => Text.ofNat n.toNat)
      (by simp [List.lookup_append, List.lookup_cons]) (by simp),
    Option.bind_some,
    Record.optional_eq_of_lookup r.source Value.toText
      (by simp [List.lookup_append, List.lookup_cons])]
  exact (Option.map_eq_bind ..).symm

/-- In the reply to a reading, a document that is an object is read as the value of its written
form; nothing is read if that nests too deeply. -/
theorem parse?_found (index id : String) (v : Version) (members : List (String × Value)) :
    parse? read
        (toText ⟨index, id, true, some v.sequence, some v.epoch, some (.object members)⟩).write =
      (Value.ofText? 126 (Value.object members).toText).map fun source =>
        ⟨index, id, true, some v.sequence, some v.epoch, some source⟩ := by
  -- A source that is null would count as none, but an object never is.
  have noNull : (Value.object members).toText ≠ .null := by simp [Value.toText]
  rw [parse?_toText_eq, Option.elim_some, Reader.nullable_of_ne_null _ noNull, Option.map_map]
  rfl

end GetReply

end VersionedStore.Wire
