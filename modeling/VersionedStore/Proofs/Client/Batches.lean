import VersionedStore.Proofs.Client.Requests
import VersionedStore.Proofs.Client.Revisions

/-!
# Batches of revisions

A batch of revisions is sent in one bulk request, which makes the first revision of each document.
The others conflict, and each of them is made again by an update of its own; with no other writer
around the first attempt of that succeeds. So all revisions of the batch are made, each of them once
and those of one document in their order.

## Main results

* `Updater.run_update` — an update that nobody disturbs
* `Outbox.run_settleAll` — what is done about the answers to a batch
* `Outbox.run_dispatch` — a batch of revisions is made
-/

namespace VersionedStore

open Json

variable {α : Type} {http : HttpConfig} (bare : Loopback.Bare http.base)
  {c : Http.Connection Server}

/-! ## Updates -/

/-- There is always a first attempt. -/
theorem Updater.exists_limit (u : Updater α) :
    ∃ left, (Attempts.start u.limit).limit = left + 1 :=
  ⟨max 1 u.limit - 1, (Nat.sub_add_cancel (Nat.le_max_left 1 u.limit)).symm⟩

/-- An update is made at the first attempt if its write is acknowledged. -/
theorem Updater.run_update_of_ack {σ : Type} {t : Transport σ} {s s₁ s₂ : σ} {u : Updater α}
    {id : String} {change : α → α} {read : Stored} {payload : Bytes} {ack : Acknowledgement}
    (shown : t (.get u.index id) s = (.ok (some read), s₁))
    (revised : u.codec.revise change read.source = .ok payload)
    (written : t (.write u.index ⟨some id, payload, some read.version, .index, u.refresh⟩) s₁ =
      (.ok ack, s₂)) :
    (u.update id change).run t s = (.ok ⟨ack, 1⟩, s₂) := by
  obtain ⟨left, first⟩ := u.exists_limit
  have request : u.request id payload read.version =
      ⟨some id, payload, some read.version, .index, u.refresh⟩ := rfl
  rw [update, first, rounds, Program.run, shown]
  simp only [revised]
  rw [Program.run, request, written]
  rfl

section Update

include bare

/-- The reading of a document shows it, unless it nests too deeply, and changes nothing. -/
theorem Loopback.transport_get_there (sent : c.client.store.Sent) {index id : String}
    (named : index ≠ "") (known : id ≠ "") {d : Document}
    (live : c.client.store.document? index id = some d) :
    transport http (.get index id) c =
      (if d.source.depth ≤ 126 then .ok (some ⟨id, d.version, d.source.reread.write⟩)
        else .error (.answer .unreadable), ⟨c.client, none⟩) := by
  have through := transport_of_answer bare (Http.draft_get index id) rfl
    (c.client.answer_get named known)
  refine Prod.ext (get_live bare sent named known live) ?_
  rw [through]

theorem Loopback.transport_get_live (sent : c.client.store.Sent) {index id : String}
    (named : index ≠ "") (known : id ≠ "") {d : Document}
    (live : c.client.store.document? index id = some d) (shallow : d.source.depth ≤ 126) :
    transport http (.get index id) c =
      (.ok (some ⟨id, d.version, d.source.reread.write⟩), ⟨c.client, none⟩) := by
  rw [transport_get_there bare sent named known live, if_pos shallow]

/-- A write that expects the version of the live document is acknowledged. -/
theorem Loopback.transport_write_live {index id : String} (named : index ≠ "") (known : id ≠ "")
    {d : Document} (live : c.client.store.document? index id = some d) {payload : Bytes} {v : Value}
    (parsed : Store.parseSource payload = .ok v) (refresh : RefreshPolicy) :
    ∃ ack receipt c', transport http
        (.write index ⟨some id, payload, some d.version, .index, refresh⟩) c = (.ok ack, c') ∧
      (receipt.index = index ∧ receipt.id = id) ∧
      c.client.store.Reaches [receipt] c'.client.store ∧
      c'.client.store.document? index id = some ⟨ack.version, v⟩ := by
  obtain ⟨w, written, own, put⟩ := Store.write_of_live live parsed refresh
  have reaches := c.client.store.reaches_write index (some id) .index (some d.version) payload
    refresh
  obtain ⟨arrives, after⟩ := transparent_write bare (s := c) named
    (w := ⟨some id, payload, some d.version, .index, refresh⟩) (by simpa using known)
  simp only [StoreCall.apply, Option.isSome_some, ↓reduceIte, WriteMode.kind] at arrives after
  rw [written] at arrives reaches
  exact ⟨_, _, _, Prod.ext arrives.eq_answer after, ⟨rfl, own⟩, reaches, put⟩

/-- An update that nobody disturbs makes its change at the first attempt. -/
theorem Updater.run_update {u : Updater α} (recovers : u.codec.Recovers)
    (sent : c.client.store.Sent) {id : String} (change : α → α) {a : α}
    (shown : c.client.store.shown? u.codec u.index id = some a) :
    ∃ ack c', (u.update id change).run (Loopback.transport http) c = (.ok ⟨ack, 1⟩, c') ∧
      c.client.store.Revised u.codec u.index [⟨id, change⟩] c'.client.store := by
  obtain ⟨⟨named, known⟩, d, live, readable⟩ := Store.shown?_eq_some_iff.1 shown
  obtain ⟨shallow, decoded⟩ := Codec.ofShown?_eq_some_iff.1 readable
  obtain ⟨payload, v, -, encoded, parsed, changed, -⟩ := recovers.exists_payload (change a)
  have read := Loopback.transport_get_live bare sent named known live shallow
  obtain ⟨ack, receipt, c', written, about, reaches, put⟩ :=
    Loopback.transport_write_live bare (c := ⟨c.client, none⟩) named known live parsed u.refresh
  have revised : u.codec.revise change d.source.reread.write = .ok payload := by
    rw [Codec.revise, decoded]
    exact encoded
  refine ⟨ack, c', run_update_of_ack read revised written, .one reaches about shown ?_⟩
  exact Store.shown?_eq_some_iff.2 ⟨⟨named, known⟩, _, put, changed⟩

end Update

/-! ## What revisions keep -/

namespace Store.Revised

variable {codec : Codec α} {name : String} {s s' : Store} {rs : List (Revision α)}
  (h : s.Revised codec name rs s')

include h

theorem sound (sound : s.Sound) : s'.Sound := by
  obtain ⟨log, reaches⟩ := h.reaches
  exact sound.of_evolves reaches.evolves

theorem sent (sent : s.Sent) : s'.Sent := by
  obtain ⟨log, reaches⟩ := h.reaches
  exact reaches.sent sent

theorem config_eq : s'.config = s.config := by
  obtain ⟨log, reaches⟩ := h.reaches
  exact reaches.config

theorem isSome_shown (id : String) :
    (s'.shown? codec name id).isSome = (s.shown? codec name id).isSome := by
  rw [h.shown, Option.isSome_map]

end Store.Revised

/-! ## Batches -/

namespace Outbox

variable (b : Outbox α) (recovers : b.codec.Recovers) (again : 0 < b.config.retries)

include bare recovers again

/-- What conflicted in a batch is made again, one after the other, and all are reported as done. -/
theorem run_settleAll {seen : List String} {ws : List (Waiting α)} {items : List Wire.Item}
    (answered : Waiting.Answered seen ws items) (position : Nat) (sent : c.client.store.Sent)
    (readable : ∀ w ∈ ws, (c.client.store.shown? b.codec b.index w.id).isSome) :
    ∃ reports c', (b.settleAll position ((ws.map Waiting.pending).zip items)).run
        (Loopback.transport http) c = (reports, c') ∧
      c.client.store.Revised b.codec b.index
        (Revision.others seen (ws.map Waiting.toRevision)) c'.client.store ∧
      reports.length = ws.length ∧ (∀ r ∈ reports, r.status.isSuccess = true) ∧
      reports.countP (·.status.isRetried) =
        (Revision.others seen (ws.map Waiting.toRevision)).length := by
  induction answered generalizing position c with
  | nil seen => exact ⟨[], c, rfl, .refl _, rfl, nofun, rfl⟩
  | @first seen w ws item items new success rest ih =>
    obtain ⟨first, readable⟩ := List.forall_mem_cons.1 readable
    have settled : b.settle w.pending item.outcome =
        .done (.succeeded item.outcome.version) := by
      rw [settle, verdict, success]
    obtain ⟨reports, c', run, revised, length, succeeded, retried⟩ :=
      ih (position + 1) sent readable
    refine ⟨report position w.pending item.outcome (.succeeded item.outcome.version) :: reports,
      c', ?_, ?_, ?_, ?_, ?_⟩
    · rw [List.map_cons, List.zip_cons_cons, settleAll, settled, Program.bind, Program.run_bind,
        run]
      rfl
    · rwa [List.map_cons, Revision.others, if_neg new]
    · rw [List.length_cons, List.length_cons, length]
    · exact List.forall_mem_cons.2 ⟨rfl, succeeded⟩
    · rw [List.map_cons, Revision.others, if_neg new, ← retried]
      exact List.countP_cons_of_neg Bool.false_ne_true
  | @again seen w ws item items old conflict rest ih =>
    obtain ⟨first, readable⟩ := List.forall_mem_cons.1 readable
    obtain ⟨a, shown⟩ := Option.isSome_iff_exists.1 first
    obtain ⟨ack, c₁, updated, revision⟩ := Updater.run_update bare (u := b.updater) recovers sent
      w.change shown
    have settled : b.settle w.pending item.outcome =
        (b.updater.update w.id w.change).bind fun r => .done (retriedStatus r) := by
      have revision : revision? w.pending = some (w.id, w.change) := rfl
      rw [settle, verdict, conflict]
      simp only [revision, again, and_self, if_true]
    obtain ⟨reports, c', run, revised, length, succeeded, retried⟩ :=
      ih (position + 1) (revision.sent sent) fun w' hw' =>
        (revision.isSome_shown w'.id).trans (readable w' hw')
    refine ⟨report position w.pending item.outcome (retriedStatus (.ok ⟨ack, 1⟩)) :: reports, c',
      ?_, ?_, ?_, ?_, ?_⟩
    · rw [List.map_cons, List.zip_cons_cons, settleAll, settled, Program.bind_assoc,
        Program.run_bind, updated, Program.bind, Program.run_bind, run]
      rfl
    · rw [List.map_cons, Revision.others, if_pos old]
      exact revision.trans revised
    · rw [List.length_cons, List.length_cons, length]
    · exact List.forall_mem_cons.2 ⟨rfl, succeeded⟩
    · rw [List.map_cons, Revision.others, if_pos old, List.length_cons, ← retried]
      exact List.countP_cons_of_pos rfl

/-- A batch of revisions that are all current is made: each revision once, those of one document in
their order, and those that were not the first of their document by an update of their own. -/
theorem run_dispatch {ws : List (Waiting α)} (nonempty : ws ≠ [])
    (few : ws.length ≤ c.client.store.config.maxActions) (sound : c.client.store.Sound)
    (sent : c.client.store.Sent)
    (current : ∀ w ∈ ws, w.Current b.codec b.index c.client.store)
    (room : c.client.store.writes b.index + ws.length ≤ UInt64.size) :
    ∃ reports c', (b.dispatch (ws.map Waiting.pending)).run (Loopback.transport http) c =
        (.ok (.ofReports reports), c') ∧
      c.client.store.Revised b.codec b.index (ws.map Waiting.toRevision) c'.client.store ∧
      reports.length = ws.length ∧ (∀ r ∈ reports, r.status.isSuccess = true) ∧
      reports.countP (·.status.isRetried) +
        ((ws.map Waiting.toRevision).map Revision.id).dedup.length = ws.length := by
  have named : b.index ≠ "" := by
    obtain ⟨w, rest, rfl⟩ := List.exists_cons_of_ne_nil nonempty
    obtain ⟨-, a, shown, -⟩ := current w List.mem_cons_self
    exact (Store.shown?_eq_some_iff.1 shown).1.1
  have complete : ∀ a ∈ (ws.map Waiting.pending).map fun p => p.intent.action, a.Complete := by
    rw [List.map_map, List.forall_mem_map]
    exact fun w hw => (current w hw).complete recovers
  have carried : ((ws.map Waiting.pending).map fun p => p.intent.action).map Action.carried =
      ws.map Waiting.action := by
    rw [List.map_map, List.map_map]
    rfl
  have bulk := Loopback.transport_bulk bare c named complete b.config.refresh (by simpa using few)
  rw [carried] at bulk
  -- The bulk request makes the first revision of each document.
  obtain ⟨answered, firsts⟩ :=
    c.client.store.revised_bulk recovers sound few current room b.config.refresh
  obtain ⟨reports, c', settled, others, length, succeeded, retried⟩ :=
    b.run_settleAll bare recovers again (c := ⟨{ c.client with store := _ }, none⟩) answered 0
      (firsts.sent sent) fun w hw => by
        obtain ⟨-, a, shown, -⟩ := current w hw
        rw [firsts.isSome_shown, shown]
        rfl
  refine ⟨reports, c', ?_,
    .of_firsts_others (firsts.trans others), length, succeeded, ?_⟩
  · rw [dispatch, if_neg (by simpa using nonempty), Program.run, bulk]
    simp only [answered.length_eq, List.length_map, if_true]
    rw [Program.run_bind, settled]
    rfl
  · have both := (Revision.perm_firsts_others [] (ws.map Waiting.toRevision)).length_eq
    rw [List.length_append, List.length_map] at both
    rw [retried, ← Revision.length_firsts, Nat.add_comm, both]

end Outbox

end VersionedStore
