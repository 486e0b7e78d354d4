import Mathlib.Data.List.Dedup
import Mathlib.Data.List.Nodup
import VersionedStore.Proofs.Client.Readable
import VersionedStore.Proofs.Store.Publication

/-!
# Revisions of documents

A revision changes the document of an id. Revisions that wait for the same bulk request may be of
the same document, and then all of them expect the version that it had when they were made; so the
first of them succeeds and the others conflict. What the bulk request has done is what the first
revisions of all documents do one after another, and to make the others after them comes to the
same as to make all of them in their order, as far as any single document can tell.

## Main definitions

* `Revision`, `Revision.applied` — a change of a document, and what revisions make of a document
* `Revision.firsts`, `Revision.others` — the first revisions of all documents, and the others
* `Store.Revised` — a store and what becomes of it by revisions
* `Waiting` — a revision that waits to be sent, with the version that it expects
* `Waiting.Answered` — which of the revisions of a bulk request succeed
* `Store.Due` — revisions that are to be done next in a bulk request

## Main results

* `Revision.applied_others_firsts` — the order of revisions matters for each document only
* `Store.Due.unrevised`, `Store.Due.revised` — what the next revision does
* `Store.revised_applyAll`, `Store.revised_bulk` — what a bulk request of revisions does
-/

namespace VersionedStore

open Json

/-! ## Revisions -/

/-- A change of the document of an id. -/
structure Revision (α : Type) where
  id : String
  change : α → α

namespace Revision

variable {α : Type}

/-- What revisions, in their order, make of the document of an id. -/
def applied : List (Revision α) → (id : String) → α → α
  | [], _, a => a
  | r :: rs, id, a => applied rs id (if r.id = id then r.change a else a)

/-- The revisions of documents that were not seen before and do not come earlier. -/
def firsts (seen : List String) : List (Revision α) → List (Revision α)
  | [] => []
  | r :: rs => if r.id ∈ seen then firsts seen rs else r :: firsts (r.id :: seen) rs

/-- The revisions of documents that were seen before or come earlier. -/
def others (seen : List String) : List (Revision α) → List (Revision α)
  | [] => []
  | r :: rs => if r.id ∈ seen then r :: others seen rs else others (r.id :: seen) rs

variable {rs : List (Revision α)} {seen : List String} {id : String}

theorem applied_append (rs rs' : List (Revision α)) (id : String) (a : α) :
    applied (rs ++ rs') id a = applied rs' id (applied rs id a) := by
  induction rs generalizing a with
  | nil => rfl
  | cons r rs ih => exact ih _

theorem applied_of_notMem (h : ∀ r ∈ rs, r.id ≠ id) (a : α) : applied rs id a = a := by
  induction rs with
  | nil => rfl
  | cons r rs ih =>
    obtain ⟨first, rest⟩ := List.forall_mem_cons.1 h
    rw [applied, if_neg first, ih rest]

theorem notMem_of_mem_firsts {r : Revision α} (h : r ∈ firsts seen rs) : r.id ∉ seen := by
  induction rs generalizing seen with
  | nil => cases h
  | cons r' rs ih =>
    rw [firsts] at h
    split at h
    · exact ih h
    · next new =>
      obtain rfl | later := List.mem_cons.1 h
      · exact new
      · exact fun old => ih later (List.mem_cons_of_mem _ old)

/-- A document does not tell whether its revisions are made in their order, or the first of them
together with those of other documents, and then the others. -/
theorem applied_others_firsts (seen : List String) (rs : List (Revision α)) (id : String) (a : α) :
    applied (others seen rs) id (applied (firsts seen rs) id a) = applied rs id a := by
  induction rs generalizing seen a with
  | nil => rfl
  | cons r rs ih =>
    rw [firsts, others]
    split
    · next old =>
      rw [applied, applied, ← ih seen]
      by_cases same : r.id = id
      -- None of the first ones is of a document that was seen before.
      · have unmoved (a : α) : applied (firsts seen rs) id a = a :=
          applied_of_notMem (fun r' h eq => notMem_of_mem_firsts h (eq ▸ same ▸ old)) a
        rw [unmoved, unmoved]
      · rw [if_neg same, if_neg same]
    · rw [applied, applied, ih]

/-- Every revision is one of the first ones or one of the others. -/
theorem perm_firsts_others (seen : List String) (rs : List (Revision α)) :
    (firsts seen rs ++ others seen rs).Perm rs := by
  induction rs generalizing seen with
  | nil => exact .refl []
  | cons r rs ih =>
    rw [firsts, others]
    split
    · exact List.perm_middle.trans ((ih seen).cons r)
    · exact (ih (r.id :: seen)).cons r

theorem mem_map_firsts : id ∈ (firsts seen rs).map Revision.id ↔
    id ∈ rs.map Revision.id ∧ id ∉ seen := by
  induction rs generalizing seen with
  | nil => simp [firsts]
  | cons r rs ih =>
    rw [firsts, List.map_cons, List.mem_cons]
    split
    · next old =>
      rw [ih]
      refine and_congr_left fun new => (or_iff_right ?_).symm
      rintro rfl
      exact new old
    · next new =>
      rw [List.map_cons, List.mem_cons, ih, List.mem_cons, not_or]
      by_cases same : id = r.id
      · simp [same, new]
      · simp [same]

theorem nodup_map_firsts (seen : List String) (rs : List (Revision α)) :
    ((firsts seen rs).map Revision.id).Nodup := by
  induction rs generalizing seen with
  | nil => exact List.nodup_nil
  | cons r rs ih =>
    rw [firsts]
    split
    · exact ih seen
    · rw [List.map_cons, List.nodup_cons, mem_map_firsts]
      exact ⟨fun h => h.2 List.mem_cons_self, ih _⟩

/-- There are as many first revisions as there are documents. -/
theorem length_firsts (rs : List (Revision α)) :
    (firsts [] rs).length = (rs.map Revision.id).dedup.length := by
  have perm : ((firsts [] rs).map Revision.id).Perm (rs.map Revision.id).dedup := by
    rw [List.perm_ext_iff_of_nodup (nodup_map_firsts [] rs) (List.nodup_dedup _)]
    intro id
    rw [mem_map_firsts, List.mem_dedup]
    simp
  rw [← perm.length_eq, List.length_map]

end Revision

/-! ## Stores -/

/-- A store becomes another one by revisions of the documents of an index: each of them is a write,
what clients read is changed by them, and all other documents stay. -/
structure Store.Revised {α : Type} (codec : Codec α) (name : String) (s : Store)
    (rs : List (Revision α)) (s' : Store) : Prop where
  reaches : ∃ log, s.Reaches log s'
  writes : s'.writes name = s.writes name + rs.length
  shown : ∀ id, s'.shown? codec name id = (s.shown? codec name id).map (Revision.applied rs id)
  rest : ∀ other id, (other = name → ∀ r ∈ rs, r.id ≠ id) →
    s'.document? other id = s.document? other id

namespace Store.Revised

variable {α : Type} {codec : Codec α} {name : String} {s s' s'' : Store}
  {rs rs' : List (Revision α)}

/-- Where the documents stay the same, nothing is revised. -/
theorem of_same {log : List Receipt} (reaches : s.Reaches log s') (same : s.SameDocuments s') :
    s.Revised codec name [] s' where
  reaches := ⟨log, reaches⟩
  writes := same.writes name
  shown id := by
    rw [shown?_congr (same.document?_eq name id)]
    exact Option.map_id'.symm
  rest other id _ := same.document?_eq other id

theorem refl (s : Store) : s.Revised codec name [] s :=
  of_same (.refl s) ⟨rfl, fun _ => rfl, fun _ => rfl⟩

theorem trans (h : s.Revised codec name rs s') (h' : s'.Revised codec name rs' s'') :
    s.Revised codec name (rs ++ rs') s'' where
  reaches := by
    obtain ⟨log, first⟩ := h.reaches
    obtain ⟨more, rest⟩ := h'.reaches
    exact ⟨_, first.trans rest⟩
  writes := by rw [h'.writes, h.writes, List.length_append, Nat.add_assoc]
  shown id := by
    rw [h'.shown, h.shown, Option.map_map]
    congr 1
    funext a
    exact (Revision.applied_append rs rs' id a).symm
  rest other id apart := by
    have first := h.rest other id fun same r hr => apart same r (List.mem_append_left _ hr)
    have rest := h'.rest other id fun same r hr => apart same r (List.mem_append_right _ hr)
    exact rest.trans first

/-- A write that puts the change of a document is a revision of it. -/
theorem one {receipt : Receipt} (reaches : s.Reaches [receipt] s') {id : String}
    (about : receipt.index = name ∧ receipt.id = id) {a : α} {change : α → α}
    (before : s.shown? codec name id = some a)
    (after : s'.shown? codec name id = some (change a)) :
    s.Revised codec name [⟨id, change⟩] s' where
  reaches := ⟨_, reaches⟩
  writes := by
    have counted : [receipt].filter (·.index == name) = [receipt] :=
      List.filter_cons_of_pos (beq_iff_eq.2 about.1)
    rw [reaches.evolves.counts, counted]
    rfl
  shown other := by
    by_cases same : id = other
    · subst same
      rw [before, after, Option.map_some, Revision.applied, if_pos rfl]
      rfl
    · have apart : ∀ r ∈ [receipt], r.concerns name other = false := by
        rw [List.forall_mem_singleton, Receipt.concerns, about.2, beq_eq_false_iff_ne.2 same,
          Bool.and_false]
      have unmoved : Revision.applied [⟨id, change⟩] other = fun a : α => a := by
        funext a
        exact if_neg same
      rw [shown?_congr (reaches.evolves.untouched apart), unmoved, Option.map_id']
  rest other key apart := by
    refine reaches.evolves.untouched ?_
    rw [List.forall_mem_singleton, Receipt.concerns, about.1, about.2]
    by_cases same : name = other
    · have elsewhere : id ≠ key := apart same.symm _ List.mem_cons_self
      rw [beq_eq_false_iff_ne.2 elsewhere, Bool.and_false]
    · rw [beq_eq_false_iff_ne.2 same, Bool.false_and]

/-- To make the first revisions of all documents before the others is to make all of them. -/
theorem of_firsts_others
    (h : s.Revised codec name (Revision.firsts [] rs ++ Revision.others [] rs) s') :
    s.Revised codec name rs s' where
  reaches := h.reaches
  writes := by rw [h.writes, (Revision.perm_firsts_others [] rs).length_eq]
  shown id := by
    rw [h.shown]
    congr 1
    funext a
    rw [Revision.applied_append, Revision.applied_others_firsts]
  rest other id apart := h.rest other id fun same r hr =>
    apart same r ((Revision.perm_firsts_others [] rs).subset hr)

end Store.Revised

/-- The action of an intent can be sent if its document is one that the store takes. -/
theorem Intent.complete_action (i : Intent) (objects : ∀ payload ∈ i.action.source,
    ∃ v, Store.parseSource payload = .ok v) : i.action.Complete := by
  have whole (payload : Bytes) (given : i.action.source = some payload) :
      (Text.parse? payload).isSome ∧ (octet '\n' ∈ payload → (Value.parse? payload).isSome) := by
    obtain ⟨v, parsed⟩ := objects payload given
    have meaning := Store.parse?_of_parseSource parsed
    refine ⟨?_, fun _ => by rw [meaning]; rfl⟩
    unfold Value.parse? at meaning
    split at meaning
    · cases meaning
    · next form => rw [form]; rfl
  cases i with
  | create id payload => exact ⟨fun _ => ⟨payload, rfl, whole payload rfl⟩, nofun, (absurd rfl ·)⟩
  | upsert id payload | update id version payload =>
    exact ⟨fun _ => ⟨payload, rfl, whole payload rfl⟩, nofun, fun _ => rfl⟩
  | delete id version => exact ⟨nofun, fun _ => rfl, fun _ => rfl⟩

/-! ## Revisions that wait -/

/-- A revision that waits to be sent: with the version that it expects, and with the changed
document. -/
structure Waiting (α : Type) extends Revision α where
  version : Version
  /-- The changed document as JSON. -/
  payload : Bytes

namespace Waiting

variable {α : Type}

/-- The item of a revision. -/
def pending (w : Waiting α) : Pending α :=
  { intent := .update w.id w.version w.payload, change := some w.change }

/-- The action of a revision as it arrives. -/
def action (w : Waiting α) : Action := .put w.id (some w.version) (Bulk.onOneLine w.payload)

/-- The live document is the one that a revision was made from, so that it may replace it. -/
def Current (codec : Codec α) (name : String) (s : Store) (w : Waiting α) : Prop :=
  (s.document? name w.id).map Document.version = some w.version ∧
    ∃ a, s.shown? codec name w.id = some a ∧ codec.encode (w.change a) = .ok w.payload

theorem Current.congr {codec : Codec α} {name : String} {s s' : Store} {w : Waiting α}
    (h : w.Current codec name s) (same : s'.document? name w.id = s.document? name w.id) :
    w.Current codec name s' := by
  obtain ⟨version, a, shown, encoded⟩ := h
  exact ⟨by rw [same, version], a, by rw [Store.shown?_congr same, shown], encoded⟩

/-- The changed document is one that the store takes, and so is what arrives of it. -/
theorem Current.parsed {codec : Codec α} (recovers : codec.Recovers) {name : String} {s : Store}
    {w : Waiting α} (h : w.Current codec name s) :
    ∃ v v', Store.parseSource w.payload = .ok v ∧
      Store.parseSource (Bulk.onOneLine w.payload) = .ok v' := by
  obtain ⟨-, a, -, encoded⟩ := h
  obtain ⟨payload, v, v', encoded', parsed, -, arrived, -⟩ := recovers.exists_payload (w.change a)
  obtain rfl := Except.ok.inj (encoded.symm.trans encoded')
  exact ⟨v, v', parsed, arrived⟩

/-- The action of a revision that is current can be sent. -/
theorem Current.complete {codec : Codec α} (recovers : codec.Recovers) {name : String} {s : Store}
    {w : Waiting α} (h : w.Current codec name s) : w.pending.intent.action.Complete := by
  obtain ⟨v, -, parsed, -⟩ := h.parsed recovers
  refine w.pending.intent.complete_action fun payload given => ?_
  obtain rfl : w.payload = payload := Option.some.inj given
  exact ⟨v, parsed⟩

/-- Which revisions of a bulk request succeed: the first one of each document. -/
inductive Answered : List String → List (Waiting α) → List Wire.Item → Prop
  | nil (seen : List String) : Answered seen [] []
  | first {seen : List String} {w : Waiting α} {ws : List (Waiting α)} {item : Wire.Item}
    {items : List Wire.Item} (new : w.id ∉ seen) (success : item.outcome.failureKind? = none)
    (rest : Answered (w.id :: seen) ws items) : Answered seen (w :: ws) (item :: items)
  | again {seen : List String} {w : Waiting α} {ws : List (Waiting α)} {item : Wire.Item}
    {items : List Wire.Item} (old : w.id ∈ seen)
    (conflict : item.outcome.failureKind? = some .conflict)
    (rest : Answered seen ws items) : Answered seen (w :: ws) (item :: items)

theorem Answered.length_eq {seen : List String} {ws : List (Waiting α)} {items : List Wire.Item}
    (h : Answered seen ws items) : items.length = ws.length := by
  induction h with
  | nil => rfl
  | first _ _ _ ih | again _ _ _ ih => rw [List.length_cons, List.length_cons, ih]

end Waiting

/-! ## Bulk requests of revisions -/

namespace Store

variable {α : Type} {codec : Codec α} {name : String} {s : Store} {w : Waiting α}

/-- A revision that is current succeeds. -/
theorem revised_apply (recovers : codec.Recovers) (current : w.Current codec name s) :
    (s.apply (some name) w.action).1.outcome.failureKind? = none ∧
      s.Revised codec name [w.toRevision] (s.apply (some name) w.action).2 ∧
      ((s.apply (some name) w.action).2.document? name w.id).map Document.version =
        some (s.numbered (s.writes name)) := by
  obtain ⟨version, a, before, encoded⟩ := current
  obtain ⟨payload, -, d, encoded', -, -, parsed, shown⟩ := recovers.exists_payload (w.change a)
  obtain rfl := Except.ok.inj (encoded.symm.trans encoded')
  have addressed : s.actionId w.action = (some w.id, s) := rfl
  have puts : s.applyAt name w.id w.action =
      s.writeAt name .index w.id (some w.version) d := by
    simp only [applyAt, Waiting.action, Action.put, Action.Kind.mode?, parsed]
  -- The version is the one that it expects, so the write is not refused.
  obtain ⟨written, accepted⟩ := (s.decided_writeAt name w.id w.version d).accepts version
  have reaches := s.reaches_writeAt name w.id .index (some w.version) parsed
  rw [apply_of_actionId rfl addressed, puts]
  obtain ⟨e, refused⟩ | ⟨result, -, put⟩ :=
    s.writeAt_cases name w.id .index (some w.version) d
  · rw [refused] at accepted
    cases accepted
  · obtain ⟨-, live⟩ := s.live_writeAt name w.id put
    rw [put] at reaches ⊢
    obtain ⟨somewhere, -⟩ := shown?_eq_some_iff.1 before
    have after : (s.setIndex name ((s.indexOrEmpty name).written ((s.indexOrEmpty name).live.insert
        w.id ⟨s.numbered (s.writes name), d⟩))).shown? codec name w.id = some (w.change a) :=
      shown?_eq_some_iff.2 ⟨somewhere, _, live, shown⟩
    refine ⟨?_, .one reaches ⟨rfl, rfl⟩ before after, ?_⟩
    · rw [Wire.Outcome.failureKind?, outcome, isSuccess_success, if_pos rfl]
    · rw [live, Option.map_some]

/-- A revision that expects another version than that of the live document conflicts. -/
theorem unrevised_apply {v : Value} (parsed : parseSource (Bulk.onOneLine w.payload) = .ok v)
    (stale : (s.document? name w.id).map Document.version ≠ some w.version) :
    (s.apply (some name) w.action).1.outcome.failureKind? = some .conflict ∧
      s.SameDocuments (s.apply (some name) w.action).2 := by
  have guarded : w.action.Guarded (some name) name w.id w.version :=
    ⟨rfl, rfl, rfl, .inr ⟨rfl, _, v, rfl, parsed⟩⟩
  obtain ⟨reason, refused, alike⟩ := (s.apply_guarded guarded).2 stale
  refine ⟨?_, alike.sameDocuments⟩
  rw [refused, Wire.Outcome.failureKind?, isSuccess_failure]
  rfl

/-- Revisions that are to be done next in a bulk request. The documents in `seen` were replaced
since the expected versions were made, and these have numbers below `bound`; all others are as they
were then. -/
structure Due (codec : Codec α) (name : String) (bound : Nat) (s : Store) (seen : List String)
    (ws : List (Waiting α)) : Prop where
  made : ∀ w ∈ ws, ∃ n < bound, w.version = s.numbered n
  parsed : ∀ w ∈ ws, ∃ v, parseSource (Bulk.onOneLine w.payload) = .ok v
  current : ∀ w ∈ ws, w.id ∉ seen → w.Current codec name s
  stale : ∀ id ∈ seen, ∀ n < bound,
    (s.document? name id).map Document.version ≠ some (s.numbered n)
  counted : bound ≤ s.writes name
  room : s.writes name + ws.length ≤ UInt64.size

namespace Due

variable {bound : Nat} {seen : List String} {ws : List (Waiting α)}
  (h : Due codec name bound s seen (w :: ws))

include h

private theorem tail_made : ∀ w' ∈ ws, ∃ n < bound,
    w'.version = (s.apply (some name) w.action).2.numbered n := by
  rw [(s.reaches_apply (some name) w.action).evolves.numbered_eq]
  exact (List.forall_mem_cons.1 h.made).2

private theorem tail_parsed : ∀ w' ∈ ws, ∃ v, parseSource (Bulk.onOneLine w'.payload) = .ok v :=
  (List.forall_mem_cons.1 h.parsed).2

/-- The next revision conflicts if its document was replaced, and nothing is changed. -/
theorem unrevised (old : w.id ∈ seen) :
    (s.apply (some name) w.action).1.outcome.failureKind? = some .conflict ∧
      s.SameDocuments (s.apply (some name) w.action).2 ∧
      Due codec name bound (s.apply (some name) w.action).2 seen ws := by
  obtain ⟨v, parsed⟩ := h.parsed w List.mem_cons_self
  obtain ⟨n, before, version⟩ := h.made w List.mem_cons_self
  have room := h.room
  rw [List.length_cons] at room
  obtain ⟨conflict, same⟩ := unrevised_apply parsed (version ▸ h.stale w.id old n before)
  refine ⟨conflict, same, h.tail_made, h.tail_parsed, ?_, ?_, ?_, ?_⟩
  · intro w' hw' new
    exact (h.current w' (List.mem_cons_of_mem _ hw') new).congr (same.document?_eq name w'.id)
  · intro id hid n hn
    rw [same.document?_eq, (s.reaches_apply (some name) w.action).evolves.numbered_eq]
    exact h.stale id hid n hn
  · rw [same.writes]
    exact h.counted
  · rw [same.writes]
    omega

/-- The next revision is made if its document is as it was. -/
theorem revised (recovers : codec.Recovers) (new : w.id ∉ seen) :
    (s.apply (some name) w.action).1.outcome.failureKind? = none ∧
      s.Revised codec name [w.toRevision] (s.apply (some name) w.action).2 ∧
      Due codec name bound (s.apply (some name) w.action).2 (w.id :: seen) ws := by
  obtain ⟨success, revision, put⟩ :=
    revised_apply recovers (h.current w List.mem_cons_self new)
  have count : (s.apply (some name) w.action).2.writes name = s.writes name + 1 := revision.writes
  have others : ∀ id, id ≠ w.id → (s.apply (some name) w.action).2.document? name id =
      s.document? name id := by
    intro id apart
    refine revision.rest name id fun _ => ?_
    rw [List.forall_mem_singleton]
    exact apart.symm
  have counted := h.counted
  have room := h.room
  rw [List.length_cons] at room
  refine ⟨success, revision, h.tail_made, h.tail_parsed, ?_, ?_, by omega, by omega⟩
  · intro w' hw' unseen
    obtain ⟨apart, unseen⟩ := not_or.1 (mt List.mem_cons.2 unseen)
    exact (h.current w' (List.mem_cons_of_mem _ hw') unseen).congr (others w'.id apart)
  · intro id hid n hn
    rw [(s.reaches_apply (some name) w.action).evolves.numbered_eq]
    obtain rfl | hid := List.mem_cons.1 hid
    · -- The new version has a greater number than all that were expected.
      rw [put]
      intro same
      have := numbered_inj (by omega) (by omega) (Option.some.inj same)
      omega
    · rw [others id fun same => new (same ▸ hid)]
      exact h.stale id hid n hn

end Due

/-- Of revisions in a bulk request, the first one of each document that is as it was is made, and
all others conflict. -/
theorem revised_applyAll (recovers : codec.Recovers) {bound : Nat} {seen : List String}
    {ws : List (Waiting α)} (h : Due codec name bound s seen ws) :
    Waiting.Answered seen ws (s.applyAll (some name) (ws.map Waiting.action)).1 ∧
      s.Revised codec name (Revision.firsts seen (ws.map Waiting.toRevision))
        (s.applyAll (some name) (ws.map Waiting.action)).2 := by
  induction ws generalizing s seen with
  | nil => exact ⟨.nil seen, .refl s⟩
  | cons w ws ih =>
    rw [List.map_cons, List.map_cons, applyAll, Revision.firsts]
    by_cases old : w.id ∈ seen
    · obtain ⟨conflict, same, due⟩ := h.unrevised old
      obtain ⟨answered, revised⟩ := ih due
      rw [if_pos old]
      exact ⟨.again old conflict answered,
        (Revised.of_same (s.reaches_apply (some name) w.action) same).trans revised⟩
    · obtain ⟨success, revision, due⟩ := h.revised recovers old
      obtain ⟨answered, revised⟩ := ih due
      rw [if_neg old]
      exact ⟨.first old success answered, revision.trans revised⟩

/-- A bulk request of revisions that are all current makes the first one of each document. -/
theorem revised_bulk (recovers : codec.Recovers) (sound : s.Sound) {ws : List (Waiting α)}
    (few : ws.length ≤ s.config.maxActions) (current : ∀ w ∈ ws, w.Current codec name s)
    (room : s.writes name + ws.length ≤ UInt64.size) (refresh : RefreshPolicy) :
    Waiting.Answered [] ws (s.applyAll (some name) (ws.map Waiting.action)).1 ∧
      s.Revised codec name (Revision.firsts [] (ws.map Waiting.toRevision))
        (s.bulk (some name) (ws.map Waiting.action) refresh).2 := by
  have made : ∀ w ∈ ws, ∃ n < s.writes name, w.version = s.numbered n := by
    intro w hw
    obtain ⟨expected, -⟩ := current w hw
    obtain ⟨d, live, version⟩ := Option.map_eq_some_iff.1 expected
    obtain ⟨⟨n, hn, number⟩, -⟩ := sound name w.id d live
    exact ⟨n, hn, version.symm.trans number⟩
  have parsed : ∀ w ∈ ws, ∃ v, parseSource (Bulk.onOneLine w.payload) = .ok v := by
    intro w hw
    obtain ⟨-, v, -, arrived⟩ := (current w hw).parsed recovers
    exact ⟨v, arrived⟩
  have due : Due codec name (s.writes name) s [] ws :=
    ⟨made, parsed, fun w hw _ => current w hw, nofun, Nat.le_refl _, room⟩
  obtain ⟨answered, revised⟩ := revised_applyAll recovers due
  refine ⟨answered, ?_⟩
  -- What is published afterwards leaves the documents as they are.
  rw [bulk_of_few _ _ (by simpa using few)]
  generalize s.applyAll (some name) (ws.map Waiting.action) = applied at revised
  have published := revised.trans (.of_same
    (applied.2.reaches_settleAll refresh (touched applied.1))
    (applied.2.sameDocuments_settleAll refresh (touched applied.1)))
  rwa [List.append_nil] at published

end Store

end VersionedStore
