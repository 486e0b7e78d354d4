import VersionedStore.Proofs.Json.Proper

/-!
# How deeply values nest

A reader refuses texts that nest more deeply than its level. So what was read nests no deeper than
that, and a value that does is not read again from its printed form.

## Main results

* `Json.Value.depth_le_of_parse?` — what was read does not nest too deeply
* `Json.Value.ofText?_toText_eq` — a proper value is read again if and only if it does not nest too
  deeply
-/

namespace VersionedStore.Json.Value

theorem membersDepth_le_iff {ms : List (String × Value)} {n : Nat} :
    membersDepth ms ≤ n ↔ ∀ m ∈ ms, m.2.depth ≤ n := by
  induction ms with
  | nil => simp [membersDepth]
  | cons m ms ih => rw [membersDepth, Nat.max_le, ih, List.forall_mem_cons]

/-! ## What was read -/

private theorem membersDepth_insert {found : Entries Value} {v : Value} {n : Nat} (key : String)
    (h : membersDepth found ≤ n) (hv : v.depth ≤ n) :
    membersDepth (Entries.insert key v found) ≤ n := by
  rw [membersDepth_le_iff] at h ⊢
  intro m hm
  obtain rfl | hm := Entries.mem_insert hm
  · exact hv
  · exact h m hm

mutual

/-- What was read nests no deeper than the level of its reader. -/
theorem depth_le_of_ofText? : ∀ {t : Text} {level : Nat} {v : Value}, ofText? level t = some v →
    v.depth ≤ level
  | .null, _, _, h => by
    rw [← Option.some.inj h]
    exact Nat.zero_le _
  | .bool b, _, _, h => by
    rw [← Option.some.inj h]
    exact Nat.zero_le _
  | .number l, _, _, h => by
    rw [ofText?] at h
    obtain ⟨n, -, rfl⟩ := Option.map_eq_some_iff.1 h
    exact Nat.zero_le _
  | .string s, _, _, h => by
    rw [ofText?] at h
    obtain ⟨s, -, rfl⟩ := Option.map_eq_some_iff.1 h
    exact Nat.zero_le _
  | .array ts, 0, _, h => by simp [ofText?] at h
  | .array ts, level + 1, _, h => by
    rw [ofText?] at h
    obtain ⟨vs, hvs, rfl⟩ := Option.map_eq_some_iff.1 h
    rw [depth]
    exact Nat.succ_le_succ (elementsDepth_le hvs)
  | .object ms, 0, _, h => by simp [ofText?] at h
  | .object ms, level + 1, _, h => by
    rw [ofText?] at h
    obtain ⟨es, hes, rfl⟩ := Option.map_eq_some_iff.1 h
    rw [depth]
    exact Nat.succ_le_succ (membersDepth_le (Nat.zero_le _) hes)

private theorem elementsDepth_le : ∀ {ts : List Text} {level : Nat} {vs : List Value},
    ofElements? level ts = some vs → elementsDepth vs ≤ level
  | [], _, _, h => by
    rw [ofElements?] at h
    rw [← Option.some.inj h]
    exact Nat.zero_le _
  | t :: ts, _, _, h => by
    rw [ofElements?] at h
    split at h
    · next hv hvs =>
      rw [← Option.some.inj h, elementsDepth]
      exact Nat.max_le.2 ⟨depth_le_of_ofText? hv, elementsDepth_le hvs⟩
    · simp at h

private theorem membersDepth_le : ∀ {ms : List (List Symbol × Text)} {level : Nat}
    {found es : Entries Value}, membersDepth found ≤ level →
    ofMembers? level found ms = some es → membersDepth es ≤ level
  | [], _, _, _, shallow, h => by
    rw [ofMembers?] at h
    rwa [← Option.some.inj h]
  | (k, t) :: ms, _, _, _, shallow, h => by
    rw [ofMembers?] at h
    split at h
    · next key v _ hv =>
      exact membersDepth_le (membersDepth_insert key shallow (depth_le_of_ofText? hv)) h
    · simp at h

end

/-- What was read does not nest too deeply. -/
theorem depth_le_of_parse? {bytes : Bytes} {v : Value} (h : parse? bytes = some v) :
    v.depth ≤ nestingLimit := by
  unfold parse? at h
  split at h
  · simp at h
  · exact depth_le_of_ofText? h

/-! ## What is not read again -/

mutual

/-- A value that nests more deeply than the level of a reader is not read from its printed form. -/
theorem ofText?_toText_of_lt : ∀ {v : Value} {level : Nat}, level < v.depth →
    ofText? level v.toText = none
  | null, _, deep | bool _, _, deep | number _, _, deep | string _, _, deep => by
    simp [depth] at deep
  | array vs, 0, _ => by rw [toText, ofText?]
  | array vs, level + 1, deep => by
    rw [depth] at deep
    rw [toText, ofText?, ofElements?_elementsToText_of_lt (by omega), Option.map_none]
  | object ms, 0, _ => by rw [toText, ofText?]
  | object ms, level + 1, deep => by
    rw [depth] at deep
    rw [toText, ofText?, ofMembers?_membersToText_of_lt [] (by omega), Option.map_none]

private theorem ofElements?_elementsToText_of_lt : ∀ {vs : List Value} {level : Nat},
    level < elementsDepth vs → ofElements? level (elementsToText vs) = none
  | [], _, deep => by simp [elementsDepth] at deep
  | v :: vs, level, deep => by
    rw [elementsDepth] at deep
    rw [elementsToText, ofElements?]
    -- The first element nests too deeply, or one of the others does.
    by_cases first : level < v.depth
    · rw [ofText?_toText_of_lt first]
    · have others : level < elementsDepth vs := by omega
      rw [ofElements?_elementsToText_of_lt others]
      split
      · contradiction
      · rfl

private theorem ofMembers?_membersToText_of_lt : ∀ {ms : List (String × Value)} {level : Nat}
    (found : Entries Value), level < membersDepth ms →
    ofMembers? level found (membersToText ms) = none
  | [], _, _, deep => by simp [membersDepth] at deep
  | (k, v) :: ms, level, found, deep => by
    rw [membersDepth] at deep
    rw [membersToText, ofMembers?, Symbol.meaning?_ofString]
    by_cases first : level < v.depth
    · rw [ofText?_toText_of_lt first]
    · split
      · exact ofMembers?_membersToText_of_lt _ (by omega)
      · rfl

end

/-- A proper value is read again from its printed form just if it does not nest too deeply. -/
theorem ofText?_toText_eq {v : Value} (h : v.Proper) (level : Nat) :
    ofText? level v.toText = if v.depth ≤ level then some v.reread else none := by
  split
  · next shallow => exact ofText?_toText h shallow
  · next deep => exact ofText?_toText_of_lt (Nat.lt_of_not_le deep)

end VersionedStore.Json.Value
