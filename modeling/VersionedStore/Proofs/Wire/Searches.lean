import VersionedStore.Proofs.Json.Depth
import VersionedStore.Proofs.Wire.Replies
import VersionedStore.Wire.Search

/-!
# Searches are read back

What is asked of the store by a search, and what it answers, is read back as it was written, but
for the queries and the documents, which are read as what their printed forms stand for.

## Main definitions

* `Wire.arrived` — a query as the store reads it
* `Wire.RawHit.reread` — a hit as a client reads it

## Main results

* `SearchBody.parse?_toText`, `CountBody.parse?_toText` — searches and counts with proper queries
* `ScrollBody.parse?_toText`, `ClearBody.parse?_toText` — requests about handles
* `SearchReply.parse?_toText`, `ClearReply.parse?_toText`, `CountReply.parse?_toText` — answers
-/

namespace VersionedStore.Wire

open Json

/-! ## Queries -/

/-- A query as it is read: null is none. -/
def arrived : Option Value → Option Value
  | none => none
  | some .null => none
  | some v => some v.reread

theorem nullable_value {v : Value} {level : Nat} (h : v.Proper) (deep : v.depth ≤ level) :
    Reader.nullable Reader.value level v.toText = some (arrived (some v)) := by
  have again : Reader.value level v.toText = some v.reread := Value.ofText?_toText h deep
  cases v with
  | null => rfl
  | _ =>
    rw [Reader.nullable_of_ne_null _ (by simp [Value.toText, Text.ofString]), again]
    rfl

variable {query : Option Value} {level : Nat}

/-- An optional value of a message is read as it arrives. -/
theorem value_arrives (v : Option Value) (h : ∀ x ∈ v, x.Proper ∧ x.depth ≤ level) :
    (v.elim (some none) fun x => Reader.nullable Reader.value level x.toText) =
      some (arrived v) := by
  cases v with
  | none => rfl
  | some x => exact nullable_value (h x rfl).1 (h x rfl).2

private theorem optional_query {ms : List (String × Text)}
    (hl : ms.lookup "query" = query.map Value.toText)
    (h : ∀ v ∈ query, v.Proper ∧ v.depth ≤ level) :
    Record.optional ⟨level, ms⟩ "query" Reader.value = some (arrived query) := by
  rw [Record.optional_eq_of_lookup query _ hl, value_arrives query h]

namespace SearchBody

theorem wellFormed_toText (b : SearchBody) : b.toText.WellFormed := by
  refine Text.wellFormed_ofMembers ?_
  simp only [List.forall_mem_append]
  refine ⟨Record.wellFormed_given _ _ Value.wellFormed_toText, ?_⟩
  simp only [List.forall_mem_cons, List.not_mem_nil, false_imp_iff, implies_true, and_true]
  exact ⟨Text.wellFormed_ofNat _, trivial⟩

/-- A search is read as it was written, with its query as it arrives. -/
theorem parse?_toText (b : SearchBody) (h : ∀ v ∈ b.query, v.Proper ∧ v.depth ≤ 126) :
    parse? read b.toText.write = some { b with query := arrived b.query } := by
  have names : ((Record.given "query" Value.toText b.query ++
      [("size", Text.ofNat b.size.toNat), ("seq_no_primary_term", Text.bool b.versions)]).map
      Prod.fst).Sublist ([Field.omitted "query", .required "size",
        .omitted "seq_no_primary_term"].map Field.name) := by
    rw [List.map_append]
    exact (Record.sublist_given _ _ _).append (List.Sublist.refl _)
  rw [parse?_write _ (wellFormed_toText _), read, toText, nestingLimit,
    Record.ofText?_ofMembers names (by decide)]
  simp only [Option.bind_eq_bind, Option.bind_some]
  rw [optional_query (by simp [List.lookup_append, List.lookup_cons]) h, Option.bind_some,
    Record.required_of_lookup (by simp [List.lookup_append]; rfl), Reader.word32_ofNat,
    Option.bind_some,
    Record.orDefault_of_lookup (by simp [List.lookup_append, List.lookup_cons]; rfl),
    Reader.bool_bool]
  rfl

end SearchBody

namespace CountBody

/-- A count is read with its query as it arrives. -/
theorem parse?_toText (h : ∀ v ∈ query, v.Proper ∧ v.depth ≤ 126) :
    parse? read (toText ⟨query⟩).write = some ⟨arrived query⟩ := by
  have wellFormed : (toText ⟨query⟩).WellFormed :=
    Text.wellFormed_ofMembers (Record.wellFormed_given _ _ Value.wellFormed_toText)
  rw [parse?_write _ wellFormed, read, toText, nestingLimit,
    Record.ofText?_ofMembers (Record.sublist_given _ _ _) (by decide)]
  simp only [Option.bind_eq_bind, Option.bind_some]
  rw [optional_query (by simp) h]
  rfl

end CountBody

/-! ## Handles -/

/-- The request for the next page is read as it was written. -/
theorem ScrollBody.parse?_toText (b : ScrollBody) : parse? read b.toText.write = some b := by
  have wellFormed : b.toText.WellFormed := by
    refine Text.wellFormed_ofMembers ?_
    simp [Text.wellFormed_ofString]
  rw [parse?_write _ wellFormed, read, toText, nestingLimit,
    Record.ofText?_ofMembers (List.Sublist.refl _) (by decide)]
  simp only [Option.bind_eq_bind, Option.bind_some]
  rw [Record.required_of_lookup List.lookup_cons_self, Reader.string_ofString, Option.bind_some,
    Record.required_of_lookup (by simp [List.lookup_cons]; rfl), Reader.string_ofString]
  rfl

/-- The request to release handles is read as it was written. -/
theorem ClearBody.parse?_toText (b : ClearBody) : parse? read b.toText.write = some b := by
  have wellFormed : b.toText.WellFormed := by
    refine Text.wellFormed_ofMembers ?_
    rw [List.forall_mem_singleton]
    refine Text.wellFormed_array fun t ht => ?_
    obtain ⟨h, -, rfl⟩ := List.mem_map.1 ht
    exact Text.wellFormed_ofString h
  rw [parse?_write _ wellFormed, read, toText, nestingLimit,
    Record.ofText?_ofMembers (List.Sublist.refl _) (by decide)]
  simp only [Option.bind_eq_bind, Option.bind_some]
  rw [Record.required_of_lookup List.lookup_cons_self,
    Reader.list_array _ _ fun h _ => Reader.string_ofString _ h]
  rfl

/-! ## Answers -/

/-- The answer to a request to release handles is read as it was written. -/
theorem ClearReply.parse?_toText (r : ClearReply) : parse? read r.toText.write = some r := by
  have wellFormed : r.toText.WellFormed := by
    refine Text.wellFormed_ofMembers ?_
    simp [Text.wellFormed_ofNat, Text.WellFormed]
  rw [parse?_write _ wellFormed, read, toText, nestingLimit,
    Record.ofText?_ofMembers (List.Sublist.refl _) (by decide)]
  simp only [Option.bind_eq_bind, Option.bind_some]
  rw [Record.required_of_lookup List.lookup_cons_self, Reader.bool_bool, Option.bind_some,
    Record.required_of_lookup (by simp [List.lookup_cons]; rfl), Reader.word32_ofNat]
  rfl

/-- The answer to a count is read as it was written. -/
theorem CountReply.parse?_toText (r : CountReply) : parse? read r.toText.write = some r := by
  have wellFormed : r.toText.WellFormed := by
    refine Text.wellFormed_ofMembers ?_
    simp [Text.wellFormed_ofNat]
  rw [parse?_write _ wellFormed, read, toText, nestingLimit,
    Record.ofText?_ofMembers (List.Sublist.refl _) (by decide)]
  simp only [Option.bind_eq_bind, Option.bind_some]
  rw [Record.required_of_lookup List.lookup_cons_self, Reader.word64_ofNat]
  rfl

namespace Total

theorem wellFormed_toText (t : Total) : t.toText.WellFormed := by
  refine Text.wellFormed_ofMembers ?_
  simp [Text.wellFormed_ofString, Text.wellFormed_ofNat]

@[simp] theorem read_toText (t : Total) (level : Nat) : read (level + 1) t.toText = some t := by
  have relation : TotalRelation.read level (.ofString t.relation.word) = some t.relation := by
    have word : TotalRelation.ofWord? t.relation.word = some t.relation := by
      cases t.relation <;> rfl
    rw [Text.ofString, TotalRelation.read, Symbol.meaning?_ofString, Option.bind_some, word]
  rw [read, toText, Record.ofText?_ofMembers (List.Sublist.refl _) (by decide)]
  simp only [Option.bind_eq_bind, Option.bind_some]
  rw [Record.required_of_lookup List.lookup_cons_self, Reader.word64_ofNat, Option.bind_some,
    Record.required_of_lookup (by simp [List.lookup_cons]; rfl), relation]
  rfl

end Total

namespace RawHit

/-- A hit as it is read, with the document that its printed form stands for. -/
def reread (h : RawHit) : RawHit := { h with source := h.source.map Value.reread }

theorem wellFormed_toText (h : RawHit) : h.toText.WellFormed := by
  refine Text.wellFormed_ofMembers ?_
  simp only [List.forall_mem_append]
  refine ⟨⟨⟨?_, ?_⟩, ?_⟩, ?_⟩
  · simp [Text.wellFormed_ofString]
  · exact Record.wellFormed_given _ _ fun n => Text.wellFormed_ofNat n.toNat
  · exact Record.wellFormed_given _ _ fun n => Text.wellFormed_ofNat n.toNat
  · exact Record.wellFormed_given _ _ Value.wellFormed_toText

/-- A document that a hit can carry: an object that is read again. -/
structure Carries (h : RawHit) (level : Nat) : Prop where
  proper : ∀ v ∈ h.source, v.Proper
  depth : ∀ v ∈ h.source, v.depth ≤ level
  -- A document that is null would count as none.
  present : ∀ v ∈ h.source, v ≠ .null

/-- A hit is read as it was written if its document is read. -/
theorem read_toText_eq (h : RawHit) : read (level + 1) h.toText =
    (h.source.elim (some none) fun v => Reader.nullable Reader.value level v.toText).map fun source =>
        { h with source } := by
  have names : (([("_index", Text.ofString h.index), ("_id", Text.ofString h.id)] ++
      Record.given "_seq_no" (fun n : UInt64 => Text.ofNat n.toNat) h.sequence ++
      Record.given "_primary_term" (fun n : UInt64 => Text.ofNat n.toNat) h.epoch ++
      Record.given "_source" Value.toText h.source).map Prod.fst).Sublist
      (fields.map Field.name) := by
    simp only [List.map_append]
    exact (((List.Sublist.refl _).append (Record.sublist_given _ _ _)).append
      (Record.sublist_given _ _ _)).append (Record.sublist_given _ _ _)
  rw [read, toText, Record.ofText?_ofMembers names (by decide)]
  simp only [Option.bind_eq_bind, Option.bind_some]
  rw [Record.orDefault_of_lookup (by simp; rfl), Reader.string_ofString,
    Option.bind_some,
    Record.required_of_lookup (by simp [List.lookup_cons]; rfl),
    Reader.string_ofString, Option.bind_some,
    Record.optional_of_lookup h.sequence (fun n => Text.ofNat n.toNat)
      (by simp [List.lookup_append, List.lookup_cons]) (by simp),
    Option.bind_some,
    Record.optional_of_lookup h.epoch (fun n => Text.ofNat n.toNat)
      (by simp [List.lookup_append, List.lookup_cons]) (by simp),
    Option.bind_some,
    Record.optional_eq_of_lookup h.source Value.toText
      (by simp [List.lookup_append, List.lookup_cons])]
  exact (Option.map_eq_bind ..).symm

/-- A hit is read as it was written, with its document as it arrives. -/
theorem read_toText_arrived {h : RawHit} (fits : ∀ v ∈ h.source, v.Proper ∧ v.depth ≤ level) :
    read (level + 1) h.toText = some { h with source := arrived h.source } := by
  rw [read_toText_eq, value_arrives h.source fits, Option.map_some]

theorem read_toText {h : RawHit} (carries : h.Carries level) :
    read (level + 1) h.toText = some h.reread := by
  rw [read_toText_arrived fun v hv => ⟨carries.proper v hv, carries.depth v hv⟩, reread]
  cases hs : h.source with
  | none => rfl
  | some v =>
    cases v with
    | null => exact absurd rfl (carries.present _ hs)
    | _ => rfl

/-- A hit is not read if its document nests too deeply. -/
theorem read_toText_of_deep {h : RawHit} {v : Value} (source : h.source = some v)
    (deep : level < v.depth) : read (level + 1) h.toText = none := by
  have noNull : v.toText ≠ .null := by
    cases v with
    | null => simp [Value.depth] at deep
    | _ => simp [Value.toText, Text.ofString]
  have unread : Reader.value level v.toText = none := Value.ofText?_toText_of_lt deep
  simp only [read_toText_eq, source, Option.elim_some, Reader.nullable_of_ne_null _ noNull, unread,
    Option.map_none]

end RawHit

namespace SearchReply

theorem wellFormed_toText (r : SearchReply) : r.toText.WellFormed := by
  refine Text.wellFormed_ofMembers ?_
  rw [List.forall_mem_append]
  refine ⟨Record.wellFormed_given _ _ Text.wellFormed_ofString, ?_⟩
  simp only [List.forall_mem_cons, List.not_mem_nil, false_imp_iff, implies_true, and_true]
  refine ⟨Text.wellFormed_ofNat _, Text.wellFormed_ofMembers ?_⟩
  simp only [List.forall_mem_cons, List.not_mem_nil, false_imp_iff, implies_true, and_true]
  refine ⟨r.total.wellFormed_toText, Text.wellFormed_array fun t ht => ?_⟩
  obtain ⟨h, -, rfl⟩ := List.mem_map.1 ht
  exact h.wellFormed_toText

/-- The answer to a search is read as it was written if its hits are read. -/
theorem parse?_toText_eq (r : SearchReply) : parse? read r.toText.write =
    (Reader.list RawHit.read 125 (.array (r.hits.map RawHit.toText))).map fun hits =>
      { r with hits } := by
  have names : ((Record.given "_scroll_id" Text.ofString r.handle ++
      [("took", Text.ofNat r.took.toNat), ("hits", Text.ofMembers [("total", r.total.toText),
        ("hits", .array (r.hits.map RawHit.toText))])]).map Prod.fst).Sublist
      ([Field.omitted "_scroll_id", .omitted "took", .required "hits"].map Field.name) := by
    rw [List.map_append]
    exact (Record.sublist_given _ _ _).append (List.Sublist.refl _)
  have hits : readHits 126 (.ofMembers [("total", r.total.toText),
      ("hits", .array (r.hits.map RawHit.toText))]) =
        (Reader.list RawHit.read 125 (.array (r.hits.map RawHit.toText))).map (r.total, ·) := by
    rw [readHits, Record.ofText?_ofMembers (List.Sublist.refl _) (by decide)]
    simp only [Option.bind_eq_bind, Option.bind_some]
    rw [Record.required_of_lookup List.lookup_cons_self, Total.read_toText, Option.bind_some,
      Record.required_of_lookup (by simp [List.lookup_cons]; rfl)]
    exact (Option.map_eq_bind ..).symm
  rw [parse?_write _ r.wellFormed_toText, read, toText, nestingLimit,
    Record.ofText?_ofMembers names (by decide)]
  simp only [Option.bind_eq_bind, Option.bind_some]
  rw [Record.optional_of_lookup r.handle Text.ofString
      (by simp [List.lookup_append, List.lookup_cons]) (by simp),
    Option.bind_some,
    Record.orDefault_of_lookup (by simp [List.lookup_append]; rfl),
    Reader.word64_ofNat, Option.bind_some,
    Record.required_of_lookup (by simp [List.lookup_append, List.lookup_cons]; rfl), hits]
  cases Reader.list RawHit.read 125 (.array (r.hits.map RawHit.toText)) <;> rfl

/-- The answer to a search is read as it was written, with the hits as they are read. -/
theorem parse?_toText (r : SearchReply) (carries : ∀ h ∈ r.hits, h.Carries 123) :
    parse? read r.toText.write = some { r with hits := r.hits.map RawHit.reread } := by
  rw [parse?_toText_eq, Reader.list_array_map _ RawHit.reread _ fun h hh =>
    RawHit.read_toText (carries h hh), Option.map_some]

/-- The answer to a search is not read if the document of a hit nests too deeply. -/
theorem parse?_toText_of_deep {r : SearchReply} {h : RawHit} {v : Value} (among : h ∈ r.hits)
    (source : h.source = some v) (deep : 123 < v.depth) : parse? read r.toText.write = none := by
  rw [parse?_toText_eq, Reader.list_array_of_none _ among (RawHit.read_toText_of_deep source deep),
    Option.map_none]

end SearchReply

end VersionedStore.Wire
