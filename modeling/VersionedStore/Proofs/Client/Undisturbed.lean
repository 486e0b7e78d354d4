import Mathlib.Logic.Function.Basic
import VersionedStore.Proofs.Client.Batches

/-!
# Undisturbed updates

An update that nobody disturbs makes one attempt. If there is a document that the client can read,
and the store takes what the client writes for it, then the changed document is put in its place,
under the next version of the index; otherwise the update fails and nothing is changed.

## Main definitions

* `IndexView` — an index as its readers see it
* `Store.Turns` — a store of which one index comes to look in some way
* `Codec.changed?` — what a change makes of a stored document

## Main results

* `Store.Turns.put` — a write that leaves a document
* `Updater.run_update_changed`, `Updater.run_update_unchanged` — an update that nobody disturbs
-/

namespace VersionedStore

open Json

variable {α : Type}

/-! ## Indices -/

/-- An index as its readers see it. -/
structure IndexView where
  /-- How many writes it counts. -/
  writes : Nat
  /-- The live documents by their ids. -/
  documents : String → Option Document

/-- The index after a write that puts a document. -/
def IndexView.put (x : IndexView) (id : String) (d : Document) : IndexView :=
  ⟨x.writes + 1, Function.update x.documents id (some d)⟩

theorem IndexView.documents_put (x : IndexView) (id : String) (d : Document) (key : String) :
    (x.put id d).documents key = if key = id then some d else x.documents key :=
  Function.update_apply x.documents id (some d) key

def Store.view (s : Store) (name : String) : IndexView := ⟨s.writes name, s.document? name⟩

theorem Store.documents_view (s : Store) (name id : String) :
    (s.view name).documents id = s.document? name id := rfl

namespace Store

/-- A store becomes another one, in which an index looks as it is told; all other documents stay. -/
structure Turns (s : Store) (name : String) (x : IndexView) (s' : Store) : Prop where
  reaches : ∃ log, s.Reaches log s'
  view : s'.view name = x
  rest : ∀ other id, other ≠ name → s'.document? other id = s.document? other id

namespace Turns

variable {s s' s'' : Store} {name : String} {x y : IndexView}

theorem of_same {log : List Receipt} (reaches : s.Reaches log s') (same : s.SameDocuments s') :
    s.Turns name (s.view name) s' where
  reaches := ⟨log, reaches⟩
  view := by
    rw [Store.view, same.writes, Store.view]
    congr 1
    exact funext (same.document?_eq name)
  rest other id _ := same.document?_eq other id

theorem refl (s : Store) (name : String) : s.Turns name (s.view name) s :=
  of_same (.refl s) ⟨rfl, fun _ => rfl, fun _ => rfl⟩

theorem trans (h : s.Turns name x s') (h' : s'.Turns name y s'') : s.Turns name y s'' where
  reaches := by
    obtain ⟨log, first⟩ := h.reaches
    obtain ⟨more, rest⟩ := h'.reaches
    exact ⟨_, first.trans rest⟩
  view := h'.view
  rest other id apart := (h'.rest other id apart).trans (h.rest other id apart)

theorem sent (h : s.Turns name x s') (sent : s.Sent) : s'.Sent := by
  obtain ⟨log, reaches⟩ := h.reaches
  exact reaches.sent sent

theorem numbered_eq (h : s.Turns name x s') : s'.numbered = s.numbered := by
  obtain ⟨log, reaches⟩ := h.reaches
  exact reaches.evolves.numbered_eq

/-- A write that leaves a document has put it under the next version. -/
theorem put {receipt : Receipt} (reaches : s.Reaches [receipt] s') {id : String}
    (about : receipt.index = name ∧ receipt.id = id) {version : Version} {v : Value}
    (live : s'.document? name id = some ⟨version, v⟩) :
    version = s.numbered (s.writes name) ∧
      s.Turns name ((s.view name).put id ⟨version, v⟩) s' := by
  have counted : [receipt].filter (·.index == name) = [receipt] :=
    List.filter_cons_of_pos (beq_iff_eq.2 about.1)
  have concerned : [receipt].filter (·.concerns name id) = [receipt] :=
    List.filter_cons_of_pos (by simp [Receipt.concerns, about])
  have number := reaches.evolves.versions name
  have left := reaches.evolves.left name id
  rw [counted] at number
  rw [live, versionAfter, concerned] at left
  have own : receipt.version = s.numbered (s.writes name) := by simpa using number
  have same : version = receipt.version := by
    simp only [Option.map_some, List.getLast?_singleton, Option.elim_some, Receipt.left] at left
    split at left
    · exact Option.some.inj left
    · cases left
  refine ⟨same.trans own, ⟨_, reaches⟩, ?_, fun other key apart => ?_⟩
  · have count := reaches.evolves.counts name
    rw [counted] at count
    rw [Store.view, count, IndexView.put, Store.view]
    congr 1
    funext key
    rw [Function.update_apply]
    split
    · next here => rw [here, live]
    · next here =>
      refine reaches.evolves.untouched (List.forall_mem_singleton.2 ?_)
      rw [Receipt.concerns, about.2, beq_eq_false_iff_ne.2 (Ne.symm here), Bool.and_false]
  · refine reaches.evolves.untouched (List.forall_mem_singleton.2 ?_)
    rw [Receipt.concerns, about.1, beq_eq_false_iff_ne.2 apart.symm, Bool.false_and]

end Turns

end Store

/-! ## Changes -/

/-- What a change makes of a stored document, if a client can read it and the store takes what the
client writes. -/
def Codec.changed? (codec : Codec α) (passage : Passage) (change : α → α) (v : Value) :
    Option Value := do
  let a ← if v.depth ≤ 126 then (codec.decode (passage.shown v)).toOption else none
  let payload ← (codec.encode (change a)).toOption
  (Store.parseSource payload).toOption

section Changed

variable {codec : Codec α} {passage : Passage} {change : α → α} {v w : Value}

theorem Codec.encode_of_revise {source payload : Bytes}
    (h : codec.revise change source = .ok payload) : ∃ a, codec.encode a = .ok payload := by
  unfold revise at h
  split at h
  · cases h
  · exact ⟨_, h⟩

theorem Codec.changed?_eq_some_iff : codec.changed? passage change v = some w ↔
    ∃ payload, v.depth ≤ 126 ∧ codec.revise change (passage.shown v) = .ok payload ∧
      Store.parseSource payload = .ok w := by
  rw [changed?, revise]
  by_cases shallow : v.depth ≤ 126
  · rw [if_pos shallow]
    cases codec.decode (passage.shown v) with
    | error e => simp [Except.toOption]
    | ok a =>
      cases encoded : codec.encode (change a) with
      | error e => simp [Except.toOption, encoded]
      | ok payload =>
        cases parsed : Store.parseSource payload <;>
          simp [Except.toOption, encoded, parsed, shallow]
  · simp [shallow]

theorem Codec.changed?_eq_none_iff : codec.changed? passage change v = none ↔
    ¬v.depth ≤ 126 ∨ (v.depth ≤ 126 ∧ ∀ payload,
      codec.revise change (passage.shown v) = .ok payload →
        ∃ e, Store.parseSource payload = .error e) := by
  rw [Option.eq_none_iff_forall_ne_some]
  constructor
  · intro none
    by_cases shallow : v.depth ≤ 126
    · refine .inr ⟨shallow, fun payload revised => ?_⟩
      cases parsed : Store.parseSource payload with
      | error e => exact ⟨e, rfl⟩
      | ok w => exact absurd (changed?_eq_some_iff.2 ⟨payload, shallow, revised, parsed⟩) (none w)
    · exact .inl shallow
  · intro none w changed
    obtain ⟨payload, shallow, revised, parsed⟩ := changed?_eq_some_iff.1 changed
    obtain deep | ⟨-, unmade⟩ := none
    · exact deep shallow
    · obtain ⟨e, unparsed⟩ := unmade payload revised
      rw [parsed] at unparsed
      cases unparsed

/-- Where all numbers are steady, it makes no difference that documents are printed and read. -/
theorem Codec.changed?_printed (steady : v.Steady) :
    codec.changed? .printed change v = codec.changed? .verbatim change v := by
  have same : Passage.printed.shown v = Passage.verbatim.shown v :=
    congrArg Value.write (Value.reread_eq steady)
  rw [changed?, changed?, same]

end Changed

/-! ## Updates -/

/-- What is no document is refused as a faulty request. -/
theorem Store.status_of_parseSource {bytes : Bytes} {e : StoreError}
    (h : parseSource bytes = .error e) : e.status = 400 := by
  unfold parseSource at h
  split at h
  · rw [← Except.error.inj h]
    rfl
  · cases h
  · rw [← Except.error.inj h]
    rfl

section Update

variable {http : HttpConfig} (bare : Loopback.Bare http.base) {c : Http.Connection Server}

include bare

/-- The reading of a document that is not there finds none and changes nothing. -/
theorem Loopback.transport_get_missing {index id : String} (named : index ≠ "") (known : id ≠ "")
    (missing : c.client.store.document? index id = none) :
    transport http (.get index id) c = (.ok none, ⟨c.client, none⟩) := by
  rw [transport_of_answer bare (Http.draft_get index id) rfl (c.client.answer_get named known)]
  obtain ⟨-, absent | absent⟩ | ⟨d, live, -⟩ := c.client.store.get_cases index id
  · simp only [absent]
    rfl
  · simp only [absent]
    rfl
  · rw [missing] at live
    cases live

/-- A write of what is no document fails, and not by a conflict, and changes nothing. -/
theorem Loopback.transport_write_unparsed {index id : String} (named : index ≠ "")
    (known : id ≠ "") {payload : Bytes} {e : StoreError}
    (unparsed : Store.parseSource payload = .error e) (required : Option Version)
    (refresh : RefreshPolicy) :
    ∃ f, transport http (.write index ⟨some id, payload, required, .index, refresh⟩) c =
        (.error f, ⟨c.client, none⟩) ∧ f.failureKind = .other := by
  obtain ⟨arrives, after⟩ := transparent_write bare (s := c) named
    (w := ⟨some id, payload, required, .index, refresh⟩) (by simpa using known)
  have refused : c.client.store.write index (some id) .index required payload refresh =
      (.error e, c.client.store) := by
    simp only [Store.write, Store.address, Action.Kind.mode?, unparsed]
  simp only [StoreCall.apply, Option.isSome_some, ↓reduceIte, WriteMode.kind, refused,
    Except.map] at arrives after
  generalize answered : transport http _ c = r at arrives after ⊢
  obtain ⟨reply, c'⟩ := r
  obtain rfl := after
  cases arrives with
  | nothing _ missing => cases missing
  | failure _ kind =>
    rw [Store.status_of_parseSource unparsed] at kind
    exact ⟨_, rfl, kind⟩

/-- An update that nobody disturbs puts the changed document under the next version. -/
theorem Updater.run_update_changed {u : Updater α} (sent : c.client.store.Sent)
    (named : u.index ≠ "") {id : String} (known : id ≠ "") {d : Document}
    (there : c.client.store.document? u.index id = some d) {change : α → α} {v : Value}
    (changed : u.codec.changed? .printed change d.source = some v) :
    ∃ ack c', (u.update id change).run (Loopback.transport http) c = (.ok ⟨ack, 1⟩, c') ∧
      ack.version = c.client.store.numbered (c.client.store.writes u.index) ∧
      c.client.store.Turns u.index
        ((c.client.store.view u.index).put id ⟨ack.version, v⟩) c'.client.store := by
  obtain ⟨payload, shallow, revised, parsed⟩ := Codec.changed?_eq_some_iff.1 changed
  have read := Loopback.transport_get_live bare sent named known there shallow
  obtain ⟨ack, receipt, c', written, about, reaches, put⟩ :=
    Loopback.transport_write_live bare (c := ⟨c.client, none⟩) named known there parsed u.refresh
  obtain ⟨version, turns⟩ := Store.Turns.put reaches about put
  exact ⟨ack, c', run_update_of_ack read revised written, version, turns⟩

/-- An update of a document that is not there, or that cannot be changed, fails and changes
nothing. -/
theorem Updater.run_update_unchanged {u : Updater α} (sent : c.client.store.Sent)
    (named : u.index ≠ "") {id : String} (known : id ≠ "") {change : α → α}
    (unchanged : ∀ d, c.client.store.document? u.index id = some d →
      u.codec.changed? .printed change d.source = none) :
    ∃ e, (u.update id change).run (Loopback.transport http) c =
      (.error e, ⟨c.client, none⟩) := by
  obtain ⟨left, first⟩ := u.exists_limit
  rw [update, first, rounds, Program.run]
  cases there : c.client.store.document? u.index id with
  | none =>
    rw [Loopback.transport_get_missing bare named known there]
    exact ⟨_, rfl⟩
  | some d =>
    obtain deep | ⟨shallow, unmade⟩ := Codec.changed?_eq_none_iff.1 (unchanged d there)
    · rw [Loopback.transport_get_there bare sent named known there, if_neg deep]
      exact ⟨_, rfl⟩
    · rw [Loopback.transport_get_live bare sent named known there shallow]
      cases revised : u.codec.revise change d.source.reread.write with
      | error e =>
        simp only [revised]
        exact ⟨_, rfl⟩
      | ok payload =>
        -- The client writes something, but the store does not take it.
        obtain ⟨e, unparsed⟩ := unmade payload revised
        obtain ⟨f, refused, kind⟩ := Loopback.transport_write_unparsed bare
          (c := ⟨c.client, none⟩) named known unparsed (some d.version) u.refresh
        have request : u.request id payload d.version =
            ⟨some id, payload, some d.version, .index, u.refresh⟩ := rfl
        simp only [revised]
        rw [Program.run, request, refused]
        cases f with
        | conflict => cases kind
        | _ => exact ⟨_, rfl⟩

end Update

end VersionedStore
