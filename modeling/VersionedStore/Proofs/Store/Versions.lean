import Mathlib.Data.List.Nodup
import VersionedStore.Proofs.Json.Depth
import VersionedStore.Proofs.Json.Proper
import VersionedStore.Proofs.Store.Evolution

/-!
# Versions do not come back

The number in a version is the count of its index when it was made. As long as the count fits
the 64 bits of a sequence number, an operation makes a version that none before it made; so a
document that has the version it had before is the document that it was before.

## Main definitions

* `Store.Sound` — all live documents have numbers below the count of their index, and were sent
  as JSON

## Main results

* `Store.Evolves.nodup_versions` — no version is made twice
* `Store.Sound.of_evolves` — the operations keep a store sound
* `Store.Evolves.same_of_version` — a version that is still there stands for the same document
* `Store.Evolves.version_iff_untouched` — which documents still have a version
-/

namespace VersionedStore.Store

open Json

variable {s s' : Store} {log : List Receipt} {name id : String}

/-- Numbers that fit make different versions. -/
theorem numbered_inj {m n : Nat} (hm : m < UInt64.size) (hn : n < UInt64.size)
    (h : s.numbered m = s.numbered n) : m = n := by
  have sequences : UInt64.ofNat m = UInt64.ofNat n := congrArg Version.sequence h
  have numbers := congrArg UInt64.toNat sequences
  rwa [UInt64.toNat_ofNat_of_lt' hm, UInt64.toNat_ofNat_of_lt' hn] at numbers

namespace Evolves

theorem writes_le (h : s.Evolves log s') (name : String) : s.writes name ≤ s'.writes name := by
  rw [h.counts]
  exact Nat.le_add_right _ _

theorem numbered_eq (h : s.Evolves log s') : s'.numbered = s.numbered := by
  funext n
  rw [numbered, h.config, numbered]

/-- A version that is made has a number between the counts before and after. -/
theorem number_of_mem (h : s.Evolves log s') {r : Receipt} (hr : r ∈ log) :
    ∃ n, s.writes r.index ≤ n ∧ n < s'.writes r.index ∧ r.version = s.numbered n := by
  have made : r.version ∈ (log.filter (·.index == r.index)).map Receipt.version :=
    List.mem_map_of_mem (List.mem_filter.2 ⟨hr, beq_self_eq_true _⟩)
  rw [h.versions] at made
  obtain ⟨n, hn, version⟩ := List.mem_map.1 made
  rw [List.mem_range'_1, ← h.counts] at hn
  exact ⟨n, hn.1, hn.2, version.symm⟩

/-- No version is made twice in an index, as long as the numbers fit. -/
theorem nodup_versions (h : s.Evolves log s') (name : String)
    (few : s'.writes name ≤ UInt64.size) :
    ((log.filter (·.index == name)).map Receipt.version).Nodup := by
  rw [h.versions]
  refine List.Nodup.map_on ?_ List.nodup_range'
  intro m hm n hn same
  rw [List.mem_range'_1, ← h.counts] at hm hn
  exact numbered_inj (by omega) (by omega) same

/-- A live document is the one before, or has the version of a receipt about it. -/
theorem document_cases (h : s.Evolves log s') {d : Document}
    (found : s'.document? name id = some d) :
    s.document? name id = some d ∨ ∃ r ∈ log, r.index = name ∧ r.version = d.version := by
  -- The latest receipt about the document, if there is one, made the version that it has now.
  cases hl : (log.filter (·.concerns name id)).getLast? with
  | none =>
    rw [List.getLast?_eq_none_iff] at hl
    rw [h.same name id hl] at found
    exact .inl found
  | some r =>
    have left := h.left name id
    obtain ⟨hr, concerns⟩ := List.mem_filter.1 (List.mem_of_getLast? hl)
    rw [Receipt.concerns, Bool.and_eq_true, beq_iff_eq] at concerns
    rw [found, versionAfter, hl, Option.map_some, Option.elim_some, Receipt.left] at left
    split at left
    · exact .inr ⟨r, hr, concerns.1, (Option.some.inj left).symm⟩
    · simp at left

end Evolves

/-- The document of some octets is the value that they hold. -/
theorem parse?_of_parseSource {bytes : Bytes} {v : Value} (h : parseSource bytes = .ok v) :
    Value.parse? bytes = some v := by
  unfold parseSource at h
  split at h
  · simp at h
  · next ms parsed => rw [parsed, Except.ok.inj h]
  · simp at h

/-- The document of some octets is a proper object. -/
theorem object_of_parseSource {bytes : Bytes} {v : Value} (h : parseSource bytes = .ok v) :
    ∃ ms, v = .object ms ∧ v.Proper := by
  unfold parseSource at h
  split at h
  · simp at h
  · next ms parsed =>
    obtain rfl := Except.ok.inj h
    exact ⟨ms, rfl, Value.proper_of_parse? parsed⟩
  · simp at h

/-- The document of some octets does not nest too deeply. -/
theorem depth_le_of_parseSource {bytes : Bytes} {v : Value} (h : parseSource bytes = .ok v) :
    v.depth ≤ nestingLimit :=
  Value.depth_le_of_parse? (parse?_of_parseSource h)

/-- Every live document has a number below the count of its index, and was sent as JSON. -/
def Sound (s : Store) : Prop :=
  ∀ name id d, s.document? name id = some d →
    (∃ n < s.writes name, d.version = s.numbered n) ∧ ∃ bytes, parseSource bytes = .ok d.source

theorem sound_empty (config : StoreConfig) {ids : NameSupply} : (empty config ids).Sound := by
  intro name id d found
  simp [document?, indexOrEmpty, empty, Index.empty] at found

theorem Sound.of_evolves (h : s.Sound) (evolves : s.Evolves log s') : s'.Sound := by
  intro name id d found
  constructor
  · obtain before | ⟨r, hr, rfl, version⟩ := evolves.document_cases found
    · obtain ⟨⟨n, hn, version⟩, -⟩ := h name id d before
      exact ⟨n, Nat.lt_of_lt_of_le hn (evolves.writes_le name),
        by rw [evolves.numbered_eq, version]⟩
    · obtain ⟨n, -, hn, hv⟩ := evolves.number_of_mem hr
      exact ⟨n, hn, by rw [evolves.numbered_eq, ← version, hv]⟩
  · obtain before | new := evolves.sent name id d found
    · exact (h name id d before).2
    · exact new

/-- A document with a version from before is the document from before. -/
theorem Evolves.same_of_version (h : s.Evolves log s') (few : s'.writes name ≤ UInt64.size)
    {n : Nat} (hn : n < s.writes name) {d : Document} (found : s'.document? name id = some d)
    (version : d.version = s.numbered n) : s.document? name id = some d := by
  obtain before | ⟨r, hr, rfl, hv⟩ := h.document_cases found
  · exact before
  -- A receipt in between has a number from the old count on, and the version one below it.
  · obtain ⟨m, low, high, made⟩ := h.number_of_mem hr
    rw [version, made] at hv
    have same : m = n := numbered_inj (by omega) (by omega) hv
    omega

/-- A document has a version from before if it had it then and no receipt in between is about it. -/
theorem Evolves.version_iff_untouched (h : s.Evolves log s')
    (few : s'.writes name ≤ UInt64.size) {n : Nat} (hn : n < s.writes name) :
    (s'.document? name id).map Document.version = some (s.numbered n) ↔
      (s.document? name id).map Document.version = some (s.numbered n) ∧
        ∀ r ∈ log, r.concerns name id = false := by
  constructor
  · intro version
    obtain ⟨d, found, number⟩ := Option.map_eq_some_iff.1 version
    rw [h.same_of_version few hn found number]
    refine ⟨congrArg some number, fun r hr => ?_⟩
    by_contra touched
    have about : r ∈ log.filter (·.concerns name id) :=
      List.mem_filter.2 ⟨hr, eq_true_of_ne_false touched⟩
    -- The latest receipt about the document made its version, with a number from the old count on.
    have latest := List.getLast?_eq_some_getLast (List.ne_nil_of_mem about)
    generalize List.getLast _ (List.ne_nil_of_mem about) = last at latest
    obtain ⟨among, concerns⟩ := List.mem_filter.1 (List.mem_of_getLast? latest)
    rw [Receipt.concerns, Bool.and_eq_true, beq_iff_eq] at concerns
    obtain ⟨m, low, high, made⟩ := h.number_of_mem among
    rw [h.left, versionAfter, latest, Option.elim_some, Receipt.left] at version
    split at version
    · rw [made, Option.some.injEq] at version
      rw [concerns.1] at low high
      have same : m = n := numbered_inj (by omega) (by omega) version
      omega
    · cases version
  · rintro ⟨version, untouched⟩
    rw [h.untouched untouched, version]

end VersionedStore.Store
