import VersionedStore.Proofs.Data.Table
import VersionedStore.Proofs.Json.Number
import VersionedStore.Proofs.Json.Reread

/-!
# Printed values are read again

A value that was read has numbers that can be read and objects whose keys ascend. Such a value is
read again from its printed form, if it does not nest too deeply; it differs from the value before
in floating point numbers only.

## Main definitions

* `Json.Value.Proper` — the values that are read
* `Json.Value.depth` — how deeply arrays and objects nest
* `Json.Value.reread` — what the printed form of a value is read as
* `Json.Value.Steady` — the values whose numbers are read again as they are

## Main results

* `Json.Value.proper_of_parse?` — only proper values are read
* `Json.Value.ofText?_toText`, `Json.Value.parse?_write_of_proper` — a proper value is read again
* `Json.Value.reread_eq` — a steady value is read again as it is
-/

namespace VersionedStore.Json.Value

/-! ## Definitions -/

mutual

/-- The numbers are proper, and the keys of objects ascend. -/
def Proper : Value → Prop
  | null => True
  | bool _ => True
  | number n => n.Proper
  | string _ => True
  | array elements => ElementsProper elements
  | object members => Entries.Ascending members ∧ MembersProper members

/-- The elements of an array are proper. -/
def ElementsProper : List Value → Prop
  | [] => True
  | v :: vs => v.Proper ∧ ElementsProper vs

/-- The values of the members of an object are proper. -/
def MembersProper : List (String × Value) → Prop
  | [] => True
  | (_, v) :: ms => v.Proper ∧ MembersProper ms

end

mutual

/-- How deeply arrays and objects nest. -/
def depth : Value → Nat
  | null => 0
  | bool _ => 0
  | number _ => 0
  | string _ => 0
  | array elements => elementsDepth elements + 1
  | object members => membersDepth members + 1

/-- The greatest depth of an element. -/
def elementsDepth : List Value → Nat
  | [] => 0
  | v :: vs => max v.depth (elementsDepth vs)

/-- The greatest depth of a member. -/
def membersDepth : List (String × Value) → Nat
  | [] => 0
  | (_, v) :: ms => max v.depth (membersDepth ms)

end

mutual

/-- What the printed form of a value is read as. -/
def reread : Value → Value
  | null => null
  | bool b => bool b
  | number n => number n.reread
  | string s => string s
  | array elements => array (elementsReread elements)
  | object members => object (membersReread members)

/-- What the printed elements of an array are read as. -/
def elementsReread : List Value → List Value
  | [] => []
  | v :: vs => v.reread :: elementsReread vs

/-- What the printed members of an object are read as. -/
def membersReread : List (String × Value) → List (String × Value)
  | [] => []
  | (k, v) :: ms => (k, v.reread) :: membersReread ms

end

mutual

/-- Every number is read again as it is. -/
def Steady : Value → Prop
  | null => True
  | bool _ => True
  | number n => n.reread = n
  | string _ => True
  | array elements => ElementsSteady elements
  | object members => MembersSteady members

/-- The elements of an array are read again as they are. -/
def ElementsSteady : List Value → Prop
  | [] => True
  | v :: vs => v.Steady ∧ ElementsSteady vs

/-- The values of the members of an object are read again as they are. -/
def MembersSteady : List (String × Value) → Prop
  | [] => True
  | (_, v) :: ms => v.Steady ∧ MembersSteady ms

end

theorem membersProper_iff {ms : List (String × Value)} :
    MembersProper ms ↔ ∀ m ∈ ms, m.2.Proper := by
  induction ms with
  | nil => simp [MembersProper]
  | cons m ms ih => simp [MembersProper, ih]

theorem elementsReread_eq_map (vs : List Value) : elementsReread vs = vs.map reread := by
  induction vs with
  | nil => rfl
  | cons v vs ih => rw [elementsReread, ih, List.map_cons]

theorem membersReread_eq_map (ms : List (String × Value)) :
    membersReread ms = ms.map fun m => (m.1, m.2.reread) := by
  induction ms with
  | nil => rfl
  | cons m ms ih => rw [membersReread, ih, List.map_cons]

/-- The member of an object is read again as what the member was. -/
theorem member?_reread (key : String) (v : Value) :
    v.reread.member? key = (v.member? key).map reread := by
  cases v with
  | object ms => rw [reread, member?, membersReread_eq_map, Entries.find?_map]; rfl
  | _ => rfl

/-! ## What is read is proper -/

private theorem membersProper_insert {found : Entries Value} {v : Value} (key : String)
    (h : MembersProper found) (hv : v.Proper) : MembersProper (Entries.insert key v found) := by
  rw [membersProper_iff] at h ⊢
  intro m hm
  obtain rfl | hm := Entries.mem_insert hm
  · exact hv
  · exact h m hm

mutual

/-- Only proper values are read. -/
theorem proper_of_ofText? : ∀ {t : Text} {level : Nat} {v : Value}, ofText? level t = some v →
    v.Proper
  | .null, _, _, h => by
    rw [← Option.some.inj h]
    trivial
  | .bool b, _, _, h => by
    rw [← Option.some.inj h]
    trivial
  | .number l, _, _, h => by
    rw [ofText?] at h
    obtain ⟨n, hn, rfl⟩ := Option.map_eq_some_iff.1 h
    exact Number.proper_of_ofLiteral? hn
  | .string s, _, _, h => by
    rw [ofText?] at h
    obtain ⟨s, -, rfl⟩ := Option.map_eq_some_iff.1 h
    trivial
  | .array ts, 0, _, h => by simp [ofText?] at h
  | .array ts, level + 1, _, h => by
    rw [ofText?] at h
    obtain ⟨vs, hvs, rfl⟩ := Option.map_eq_some_iff.1 h
    rw [Proper]
    exact proper_of_ofElements? hvs
  | .object ms, 0, _, h => by simp [ofText?] at h
  | .object ms, level + 1, _, h => by
    rw [ofText?] at h
    obtain ⟨es, hes, rfl⟩ := Option.map_eq_some_iff.1 h
    rw [Proper]
    exact proper_of_ofMembers? List.Pairwise.nil trivial hes

private theorem proper_of_ofElements? : ∀ {ts : List Text} {level : Nat} {vs : List Value},
    ofElements? level ts = some vs → ElementsProper vs
  | [], _, _, h => by
    rw [ofElements?] at h
    rw [← Option.some.inj h]
    trivial
  | t :: ts, _, _, h => by
    rw [ofElements?] at h
    split at h
    · next hv hvs =>
      rw [← Option.some.inj h]
      exact ⟨proper_of_ofText? hv, proper_of_ofElements? hvs⟩
    · simp at h

private theorem proper_of_ofMembers? : ∀ {ms : List (List Symbol × Text)} {level : Nat}
    {found es : Entries Value}, found.Ascending → MembersProper found →
    ofMembers? level found ms = some es → es.Ascending ∧ MembersProper es
  | [], _, _, _, ascending, proper, h => by
    rw [ofMembers?] at h
    rw [← Option.some.inj h]
    exact ⟨ascending, proper⟩
  | (k, t) :: ms, _, _, _, ascending, proper, h => by
    rw [ofMembers?] at h
    split at h
    · next key v _ hv =>
      exact proper_of_ofMembers? (Entries.pairwise_insert ascending key v)
        (membersProper_insert key proper (proper_of_ofText? hv)) h
    · simp at h

end

theorem proper_of_parse? {bytes : Bytes} {v : Value} (h : parse? bytes = some v) : v.Proper := by
  unfold parse? at h
  split at h
  · simp at h
  · exact proper_of_ofText? h

/-! ## What is proper is read again -/

mutual

/-- A proper value is read again from its printed form, if it does not nest too deeply. -/
theorem ofText?_toText : ∀ {v : Value} {level : Nat}, v.Proper → v.depth ≤ level →
    ofText? level v.toText = some v.reread
  | null, _, _, _ => rfl
  | bool b, _, _, _ => rfl
  | number n, _, h, _ => by
    rw [toText, ofText?, Number.ofLiteral?_toLiteral h, reread, Option.map_some]
  | string s, _, _, _ => by
    rw [toText, Text.ofString, ofText?, Symbol.meaning?_ofString, reread, Option.map_some]
  | array vs, 0, _, deep => by simp [depth] at deep
  | array vs, level + 1, h, deep => by
    rw [depth] at deep
    rw [toText, ofText?, ofElements?_elementsToText h (by omega), reread, Option.map_some]
  | object ms, 0, _, deep => by simp [depth] at deep
  | object ms, level + 1, h, deep => by
    rw [depth] at deep
    rw [toText, ofText?, ofMembers?_membersToText [] h.1 h.2 (by omega) (by simp), reread,
      Option.map_some, List.nil_append]

private theorem ofElements?_elementsToText : ∀ {vs : List Value} {level : Nat},
    ElementsProper vs → elementsDepth vs ≤ level →
    ofElements? level (elementsToText vs) = some (elementsReread vs)
  | [], _, _, _ => rfl
  | v :: vs, _, h, deep => by
    rw [elementsDepth] at deep
    rw [elementsToText, ofElements?, ofText?_toText h.1 (by omega),
      ofElements?_elementsToText h.2 (by omega), elementsReread]

private theorem ofMembers?_membersToText : ∀ {ms : List (String × Value)} {level : Nat}
    (found : Entries Value), Entries.Ascending ms → MembersProper ms → membersDepth ms ≤ level →
    (∀ e ∈ found, ∀ m ∈ ms, e.1 < m.1) →
    ofMembers? level found (membersToText ms) = some (found ++ membersReread ms)
  | [], _, found, _, _, _, _ => by rw [membersToText, ofMembers?, membersReread, List.append_nil]
  | (k, v) :: ms, _, found, ascending, h, deep, above => by
    obtain ⟨first, rest⟩ := List.pairwise_cons.1 ascending
    rw [membersDepth] at deep
    rw [membersToText, ofMembers?, Symbol.meaning?_ofString, ofText?_toText h.1 (by omega)]
    simp only
    -- The keys ascend, so each member is put behind those that were read before it.
    rw [Entries.insert_of_forall_lt fun e he => above e he _ List.mem_cons_self,
      ofMembers?_membersToText _ rest h.2 (by omega), membersReread, List.append_assoc,
      List.singleton_append]
    intro e he m hm
    obtain he | he := List.mem_append.1 he
    · exact above e he m (List.mem_cons_of_mem _ hm)
    · rw [List.mem_singleton.1 he]
      exact first m hm

end

theorem parse?_write_of_proper {v : Value} (h : v.Proper) (deep : v.depth ≤ nestingLimit) :
    parse? v.write = some v.reread := by
  rw [parse?_write, ofText?_toText h deep]

mutual

/-- A steady value is read again as it is. -/
theorem reread_eq : ∀ {v : Value}, v.Steady → v.reread = v
  | null, _ => rfl
  | bool _, _ => rfl
  | number n, h => by
    rw [Steady] at h
    rw [reread, h]
  | string _, _ => rfl
  | array vs, h => by rw [reread, elementsReread_eq h]
  | object ms, h => by rw [reread, membersReread_eq h]

private theorem elementsReread_eq : ∀ {vs : List Value}, ElementsSteady vs → elementsReread vs = vs
  | [], _ => rfl
  | v :: vs, h => by rw [elementsReread, reread_eq h.1, elementsReread_eq h.2]

private theorem membersReread_eq : ∀ {ms : List (String × Value)}, MembersSteady ms →
    membersReread ms = ms
  | [], _ => rfl
  | (k, v) :: ms, h => by rw [membersReread, reread_eq h.1, membersReread_eq h.2]

end

end VersionedStore.Json.Value
