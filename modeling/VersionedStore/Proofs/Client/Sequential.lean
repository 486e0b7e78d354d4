import VersionedStore.Proofs.Client.Batches

/-!
# Sessions of revisions

A session reads documents, changes them, and sends the changed ones in batches. A batch may hold
several revisions of one document, which were all made from the document as it was before the batch.
With no other writer around, and with conflicting updates being made again, this comes to the same
as to make the revisions one after another, wherever the batches are cut.

## Main definitions

* `Session.revise` — revisions are made in order, then the session is closed
* `Action.documents` — the number of documents in bulk requests, counted in each of them
* `Session.Revises`, `Session.Gathers` — a session has made some revisions, and others wait

## Main results

* `Session.Gathers.run_add`, `run_getAndUpdate`, `run_close` — the calls on a session
* `Session.revise_sequentially` — a session makes all revisions in their order
-/

namespace VersionedStore

open Json

variable {α : Type}

/-! ## Documents of requests -/

/-- The number of documents that the actions of bulk requests are about, counted in each request. -/
def Action.documents : List (List Action) → Nat
  | [] => 0
  | batch :: rest => (batch.map Action.id).dedup.length + documents rest

theorem Action.documents_append (bulks more : List (List Action)) :
    documents (bulks ++ more) = documents bulks + documents more := by
  induction bulks with
  | nil => exact (Nat.zero_add _).symm
  | cons batch bulks ih => rw [List.cons_append, documents, documents, ih, Nat.add_assoc]

namespace Waiting

variable (ws : List (Waiting α))

theorem map_id_requests : ((Pending.requests (ws.map pending)).flatten).map Action.id =
    (ws.map toRevision).map fun r => some r.id := by
  rw [Pending.requests]
  split
  · next none =>
    rw [List.isEmpty_iff, List.map_eq_nil_iff] at none
    rw [none]
    rfl
  · simp only [List.flatten_cons, List.flatten_nil, List.append_nil, List.map_map]
    rfl

/-- A batch is about the documents of its revisions. -/
theorem documents_requests : Action.documents (Pending.requests (ws.map pending)) =
    ((ws.map toRevision).map Revision.id).dedup.length := by
  rw [Pending.requests]
  split
  · next none =>
    rw [List.isEmpty_iff, List.map_eq_nil_iff] at none
    rw [none]
    rfl
  · have ids : ((ws.map pending).map fun p => p.intent.action).map Action.id =
        ((ws.map toRevision).map Revision.id).map some := by
      simp only [List.map_map]
      rfl
    rw [Action.documents, ids, List.dedup_map_of_injective (Option.some_injective _),
      List.length_map]
    rfl

end Waiting

/-! ## What is heard -/

theorem SessionConfig.report_mem_of_mem_notices (config : SessionConfig) {batch : List (Pending α)}
    {o : BatchOutcome} {n : Notice} (h : n ∈ config.notices batch o) : n.report ∈ o.reports := by
  obtain ⟨⟨p, r⟩, among, heard⟩ := List.mem_flatMap.1 h
  rw [config.report_of_mem_noticesOf heard]
  exact (List.of_mem_zip among).2

namespace Session

/-- Makes revisions in order and closes the session; the first failure ends it. -/
def revise (s : Session α) : List (Revision α) → Program (Except ClientError Stats × Session α)
  | [] => s.close
  | r :: rs =>
    (s.getAndUpdate r.id r.change).bind fun
      | (.error e, s) => .done (.error e, s)
      | (.ok _, s) => s.revise rs

/-- A session has made some revisions, in these bulk requests, each of them once; the totals and
what was heard tell so. -/
structure Revises (s : Session α) (before now : Store) (made : List (Revision α))
    (bulks : List (List Action)) : Prop where
  size : s.outbox.config.threshold ≤ now.config.maxActions
  sound : now.Sound
  sent : now.Sent
  revised : before.Revised s.outbox.codec s.outbox.index made now
  items : s.stats.items = made.length
  succeeded : s.stats.succeeded = made.length
  failed : s.stats.failed = 0
  retried : s.stats.retried + Action.documents bulks = made.length
  ids : bulks.flatten.map Action.id = made.map fun r => some r.id
  heard : ∀ n ∈ s.notices, n.report.status.isSuccess = true

/-- A session has made some revisions, and others, too few for a batch, wait in their order, all of
them made from the documents as they are. -/
structure Gathers (s : Session α) (before now : Store) (made : List (Revision α))
    (bulks : List (List Action)) (ws : List (Waiting α)) : Prop
    extends s.Revises before now made bulks where
  buffer : s.buffer = ⟨ws.map Waiting.pending, false⟩
  few : ws.length < s.outbox.config.threshold
  current : ∀ w ∈ ws, w.Current s.outbox.codec s.outbox.index now

/-- A batch that was answered with a success for each of its revisions has been made. -/
theorem Revises.absorb {s : Session α} {before now now' : Store} {made : List (Revision α)}
    {bulks : List (List Action)} (h : s.Revises before now made bulks) {ws : List (Waiting α)}
    (nonempty : ws ≠ []) (revised : now.Revised s.outbox.codec s.outbox.index
      (ws.map Waiting.toRevision) now') {reports : List Report}
    (length : reports.length = ws.length) (succeeded : ∀ r ∈ reports, r.status.isSuccess = true)
    (retried : reports.countP (·.status.isRetried) +
      ((ws.map Waiting.toRevision).map Revision.id).dedup.length = ws.length) :
    (s.absorb (ws.map Waiting.pending) (.ofReports reports)).Revises before now'
      (made ++ ws.map Waiting.toRevision)
      (bulks ++ Pending.requests (ws.map Waiting.pending)) := by
  have allSucceeded : (BatchOutcome.ofReports reports).succeeded = ws.length := by
    rw [BatchOutcome.succeeded_ofReports, ← length]
    exact List.countP_eq_length.2 succeeded
  have noneFailed := (BatchOutcome.counted_ofReports reports).succeeded_add_failed
  rw [allSucceeded, BatchOutcome.items_ofReports, length] at noneFailed
  rw [Session.absorb, if_neg (by simpa using nonempty)]
  constructor
  case size =>
    rw [revised.config_eq]
    exact h.size
  case sound => exact revised.sound h.sound
  case sent => exact revised.sent h.sent
  case revised => exact h.revised.trans revised
  case items =>
    rw [List.length_append, List.length_map, ← h.items, ← length,
      ← BatchOutcome.items_ofReports]
    rfl
  case succeeded =>
    rw [List.length_append, List.length_map, ← h.succeeded, ← allSucceeded]
    rfl
  case failed =>
    simp only [Stats.absorb]
    have := h.failed
    omega
  case retried =>
    have counted := h.retried
    rw [Action.documents_append, Waiting.documents_requests, List.length_append, List.length_map]
    simp only [Stats.absorb, BatchOutcome.retried_ofReports]
    omega
  case ids =>
    rw [List.flatten_append, List.map_append, List.map_append, h.ids, Waiting.map_id_requests]
  case heard =>
    rw [List.forall_mem_append]
    refine ⟨h.heard, fun n hn => succeeded _ ?_⟩
    rw [← BatchOutcome.reports_ofReports reports]
    exact s.outbox.config.report_mem_of_mem_notices hn

section Run

variable {http : HttpConfig} (bare : Loopback.Bare http.base) {s : Session α} {before : Store}
  {c : Http.Connection Server} {made : List (Revision α)} {bulks : List (List Action)}
  {ws : List (Waiting α)} (recovers : s.outbox.codec.Recovers) (again : 0 < s.outbox.config.retries)

include bare recovers again

/-- A batch that is sent is made. -/
theorem Revises.run_send (h : s.Revises before c.client.store made bulks)
    (few : ws.length ≤ c.client.store.config.maxActions)
    (current : ∀ w ∈ ws, w.Current s.outbox.codec s.outbox.index c.client.store)
    (room : before.writes s.outbox.index + (made.length + ws.length) ≤ UInt64.size) :
    ∃ o s' c', (s.send (ws.map Waiting.pending)).run (Loopback.transport http) c =
        ((.ok o, s'), c') ∧
      s'.Revises before c'.client.store (made ++ ws.map Waiting.toRevision)
        (bulks ++ (s.send (ws.map Waiting.pending)).bulks (Loopback.transport http) c) ∧
      s'.buffer = s.buffer ∧ s'.outbox = s.outbox := by
  rw [bulks_send]
  by_cases empty : ws = []
  · subst empty
    refine ⟨.empty, s, c, rfl, ?_, rfl, rfl⟩
    rw [List.map_nil, List.map_nil, Pending.requests_nil, List.append_nil, List.append_nil]
    exact h
  · have count := h.revised.writes
    obtain ⟨reports, c', dispatched, revised, length, succeeded, retried⟩ :=
      s.outbox.run_dispatch bare recovers again empty few h.sound h.sent current (by omega)
    refine ⟨.ofReports reports, s.absorb (ws.map Waiting.pending) (.ofReports reports), c', ?_,
      h.absorb empty revised length succeeded retried, ?_, ?_⟩
    · rw [send, Program.run_bind, dispatched]
      rfl
    all_goals
      unfold Session.absorb
      split <;> rfl

/-- A revision that is added waits, or is made together with all that wait. -/
theorem Gathers.run_add (h : s.Gathers before c.client.store made bulks ws) {w : Waiting α}
    (current : w.Current s.outbox.codec s.outbox.index c.client.store)
    (room : before.writes s.outbox.index + (made.length + ws.length + 1) ≤ UInt64.size) :
    ∃ s' c' made' ws', (s.add w.pending).run (Loopback.transport http) c = ((.ok (), s'), c') ∧
      s'.Gathers before c'.client.store made'
        (bulks ++ (s.add w.pending).bulks (Loopback.transport http) c) ws' ∧
      made' ++ ws'.map Waiting.toRevision =
        made ++ ws.map Waiting.toRevision ++ [w.toRevision] ∧
      s'.outbox = s.outbox := by
  have appended : s.buffer.append? w.pending = some ⟨(ws ++ [w]).map Waiting.pending, false⟩ := by
    rw [h.buffer, Buffer.append?, List.map_append]
    rfl
  have length : (ws ++ [w]).length = ws.length + 1 := List.length_append
  have size := h.size
  have few := h.few
  have allCurrent : ∀ w' ∈ ws ++ [w],
      w'.Current s.outbox.codec s.outbox.index c.client.store := by
    rw [List.forall_mem_append, List.forall_mem_singleton]
    exact ⟨h.current, current⟩
  rw [add, appended]
  simp only [Buffer.size, List.length_map]
  -- The revision fills the batch, which is sent with it, or it waits with the others.
  split
  · next full =>
    have cleared : Revises { s with buffer := ⟨[], false⟩ } before c.client.store made bulks :=
      { h with }
    have sends : flush { s with buffer := ⟨(ws ++ [w]).map Waiting.pending, false⟩ } =
        send { s with buffer := ⟨[], false⟩ } ((ws ++ [w]).map Waiting.pending) := rfl
    have fits : before.writes s.outbox.index + (made.length + (ws ++ [w]).length) ≤
        UInt64.size := by omega
    obtain ⟨o, s', c', sending, revises, buffer, outbox⟩ :=
      cleared.run_send bare (s := { s with buffer := ⟨[], false⟩ }) recovers again (by omega)
        allCurrent fits
    refine ⟨s', c', made ++ (ws ++ [w]).map Waiting.toRevision, [], ?_, ?_, ?_, outbox⟩
    · rw [sends, Program.run_bind, sending]
      rfl
    · rw [sends, Program.bulks_bind, Program.bulks_done, List.append_nil]
      refine { revises with buffer, few := ?_, current := nofun }
      rw [outbox]
      exact Nat.zero_lt_of_lt few
    · rw [List.map_nil, List.append_nil, List.map_append, List.append_assoc]
      rfl
  · next notFull =>
    refine ⟨_, _, made, ws ++ [w], rfl, ?_, ?_, rfl⟩
    · rw [Program.bulks_done, List.append_nil]
      exact { h with buffer := rfl, few := by simpa using notFull, current := allCurrent }
    · rw [List.map_append, List.append_assoc]
      rfl

/-- A document that can be read is revised, as it is when it is read. -/
theorem Gathers.run_getAndUpdate (h : s.Gathers before c.client.store made bulks ws)
    (r : Revision α)
    (readable : (before.shown? s.outbox.codec s.outbox.index r.id).isSome)
    (room : before.writes s.outbox.index + (made.length + ws.length + 1) ≤ UInt64.size) :
    ∃ s' c' made' ws', (s.getAndUpdate r.id r.change).run (Loopback.transport http) c =
        ((.ok (), s'), c') ∧
      s'.Gathers before c'.client.store made'
        (bulks ++ (s.getAndUpdate r.id r.change).bulks (Loopback.transport http) c) ws' ∧
      made' ++ ws'.map Waiting.toRevision = made ++ ws.map Waiting.toRevision ++ [r] ∧
      s'.outbox = s.outbox := by
  rw [← h.revised.isSome_shown] at readable
  obtain ⟨a, shown⟩ := Option.isSome_iff_exists.1 readable
  obtain ⟨⟨named, known⟩, d, live, same⟩ := Store.shown?_eq_some_iff.1 shown
  obtain ⟨shallow, decoded⟩ := Codec.ofShown?_eq_some_iff.1 same
  obtain ⟨payload, -, -, encoded, -⟩ := recovers.exists_payload (r.change a)
  have read := Loopback.transport_get_live bare h.sent named known live shallow
  let w : Waiting α := ⟨r, d.version, payload⟩
  have current : w.Current s.outbox.codec s.outbox.index c.client.store :=
    ⟨by rw [live]; rfl, a, shown, encoded⟩
  have opened : s.isClosed = false := by rw [isClosed, h.buffer]
  obtain ⟨s', c', made', ws', added, gathers, split, outbox⟩ :=
    h.run_add bare (c := ⟨c.client, none⟩) recovers again current room
  have updated : s.update r.id d.version a r.change = s.add w.pending := by
    rw [update, encoded]
    rfl
  refine ⟨s', c', made', ws', ?_, ?_, split, outbox⟩
  · rw [getAndUpdate, if_neg (by simp [opened]), Program.run, read]
    simp only [decoded, updated, added]
  · have requests : (s.getAndUpdate r.id r.change).bulks (Loopback.transport http) c =
        (s.add w.pending).bulks (Loopback.transport http) ⟨c.client, none⟩ := by
      rw [getAndUpdate, if_neg (by simp [opened]), Program.bulks_call, read]
      simp only [decoded, updated]
      rfl
    rw [requests]
    exact gathers

/-- A session that is closed has made all revisions. -/
theorem Gathers.run_close (h : s.Gathers before c.client.store made bulks ws)
    (room : before.writes s.outbox.index + (made.length + ws.length) ≤ UInt64.size) :
    ∃ s' c', s.close.run (Loopback.transport http) c = ((.ok s'.stats, s'), c') ∧
      s'.Revises before c'.client.store (made ++ ws.map Waiting.toRevision)
        (bulks ++ s.close.bulks (Loopback.transport http) c) ∧
      s'.outbox = s.outbox := by
  have cleared : Revises { s with buffer := ⟨[], true⟩ } before c.client.store made bulks :=
    { h with }
  have size := h.size
  have few := h.few
  obtain ⟨o, s', c', sending, revises, -, outbox⟩ :=
    cleared.run_send bare (s := { s with buffer := ⟨[], true⟩ }) recovers again (by omega)
      h.current room
  refine ⟨s', c', ?_, ?_, outbox⟩
  · rw [close, h.buffer, if_neg Bool.false_ne_true, Program.run_bind]
    simp only [Buffer.close]
    rw [sending]
    rfl
  · have requests : s.close.bulks (Loopback.transport http) c =
        (send { s with buffer := ⟨[], true⟩ } (ws.map Waiting.pending)).bulks
          (Loopback.transport http) c := by
      rw [close, h.buffer, if_neg Bool.false_ne_true, Program.bulks_bind]
      exact List.append_nil _
    rw [requests]
    exact revises

/-- Revisions that are made in order are all made when the session is closed. -/
theorem Gathers.run_revise (h : s.Gathers before c.client.store made bulks ws)
    {rs : List (Revision α)}
    (readable : ∀ r ∈ rs, (before.shown? s.outbox.codec s.outbox.index r.id).isSome)
    (room : before.writes s.outbox.index + (made.length + ws.length + rs.length) ≤ UInt64.size) :
    ∃ s' c', (s.revise rs).run (Loopback.transport http) c = ((.ok s'.stats, s'), c') ∧
      s'.Revises before c'.client.store (made ++ ws.map Waiting.toRevision ++ rs)
        (bulks ++ (s.revise rs).bulks (Loopback.transport http) c) ∧
      s'.outbox = s.outbox := by
  induction rs generalizing s c made bulks ws with
  | nil =>
    rw [revise, List.append_nil]
    exact h.run_close bare recovers again room
  | cons r rs ih =>
    obtain ⟨first, readable⟩ := List.forall_mem_cons.1 readable
    rw [List.length_cons] at room
    -- Wherever the cut between what was made and what waits is now, both together are the calls.
    obtain ⟨s₁, c₁, made₁, ws₁, updated, gathers, split, outbox⟩ :=
      h.run_getAndUpdate bare recovers again r first (by omega)
    have length := congrArg List.length split
    simp only [List.length_append, List.length_map, List.length_singleton] at length
    obtain ⟨s', c', revised, revises, outbox'⟩ := ih (by rwa [outbox]) (by rwa [outbox]) gathers
      (by rwa [outbox]) (by rw [outbox]; omega)
    refine ⟨s', c', ?_, ?_, outbox'.trans outbox⟩
    · rw [revise, Program.run_bind, updated]
      exact revised
    · rw [revise, Program.bulks_bind, updated, ← List.append_assoc]
      rw [split, List.append_assoc, List.singleton_append] at revises
      exact revises

end Run

/-- For every state of the store that operations lead to, and every number of actions in a batch
that the store takes: if a session with no other writer around reads and updates documents that can
be read, and makes conflicting updates again, then no call fails until it is closed, and a client
reads each document changed by all its updates in their order, and all other documents as they were.
Every item is reported as done; and those that were made again are all but one for each document of
each bulk request. -/
theorem revise_sequentially {http : HttpConfig} (bare : Loopback.Bare http.base)
    {config : StoreConfig} {ids : NameSupply} {operations : List Operation}
    {c : Http.Connection Server}
    (reached : c.client.store = ((Store.empty config ids).executeAll operations).2)
    {codec : Codec α}
    (recovers : codec.Recovers) {index : String} {options : SessionConfig}
    (positive : 1 ≤ options.batchSize) (few : options.batchSize ≤ config.maxActions)
    (again : 1 ≤ options.retries) {revisions : List (Revision α)}
    (readable : ∀ r ∈ revisions, (Loopback.shown? codec http c index r.id).isSome)
    (room : c.client.store.writes index + revisions.length ≤ UInt64.size) :
    let program := (start ⟨codec, index, options⟩).revise revisions
    let bulks := program.bulks (Loopback.transport http) c
    ∃ stats s' c', program.run (Loopback.transport http) c = ((.ok stats, s'), c') ∧
      (∀ id, Loopback.shown? codec http c' index id =
        (Loopback.shown? codec http c index id).map (Revision.applied revisions id)) ∧
      (∀ name id, (name = index → ∀ r ∈ revisions, r.id ≠ id) →
        c'.client.store.document? name id = c.client.store.document? name id) ∧
      (∀ n ∈ s'.notices, n.report.status.isSuccess = true) ∧
      stats.items = revisions.length ∧ stats.succeeded = revisions.length ∧ stats.failed = 0 ∧
      stats.retried + Action.documents bulks = revisions.length ∧
      bulks.flatten.map Action.id = revisions.map fun r => some r.id := by
  intro program bulks
  have run := (Store.empty config ids).reaches_executeAll operations
  rw [← reached] at run
  have sent : c.client.store.Sent := run.sent (Store.sent_empty config)
  have size : options.threshold ≤ c.client.store.config.maxActions := by
    rw [run.config]
    exact Nat.max_le.2 ⟨positive.trans few, few⟩
  have begun : Gathers (start ⟨codec, index, options⟩) c.client.store c.client.store [] [] [] := by
    refine ⟨⟨size, (Store.sound_empty config).of_evolves run.evolves, sent, .refl _, rfl, rfl, rfl,
      rfl, rfl, nofun⟩, rfl, ?_, nofun⟩
    exact options.threshold_pos
  have readable' : ∀ r ∈ revisions, (c.client.store.shown? codec index r.id).isSome := by
    intro r hr
    rw [← Loopback.shown?_eq bare codec sent]
    exact readable r hr
  have fits : c.client.store.writes index + (0 + 0 + revisions.length) ≤ UInt64.size := by
    rwa [Nat.add_zero, Nat.zero_add]
  obtain ⟨s', c', revised, revises, outbox⟩ := begun.run_revise bare
    (s := start ⟨codec, index, options⟩) recovers again readable' fits
  have shown := revises.revised.shown
  have rest := revises.revised.rest
  rw [outbox] at shown rest
  refine ⟨s'.stats, s', c', revised, fun id => ?_, rest, revises.heard, revises.items,
    revises.succeeded, revises.failed, revises.retried, revises.ids⟩
  rw [Loopback.shown?_eq bare codec revises.sent, Loopback.shown?_eq bare codec sent]
  exact shown id

/-- A note that is revised twice, and another one in between, all in one batch. -/
theorem revise_sequentially_twice :
    let note (n : Note) : Bytes := (Note.codec.encode n).toOption.getD []
    let operations : List Operation :=
      [.write "b" (some "c") .index none (note ⟨"d", 5⟩) .none,
        .write "b" (some "e") .index none (note ⟨"f", 6⟩) .none]
    let c : Http.Connection Server := ⟨⟨((Store.empty {}).executeAll operations).2, .empty⟩, none⟩
    let revisions : List (Revision Note) :=
      [⟨"c", Note.incremented⟩, ⟨"e", Note.incremented⟩, ⟨"c", Note.incremented⟩]
    let options : SessionConfig := { batchSize := 3, retries := 1 }
    let program := (start ⟨Note.codec, "b", options⟩).revise revisions
    ∃ stats s' c', program.run (Loopback.transport Repository.nearby) c =
        ((.ok stats, s'), c') ∧
      Loopback.shown? Note.codec Repository.nearby c' "b" "c" = some ⟨"d", 7⟩ ∧
      Loopback.shown? Note.codec Repository.nearby c' "b" "e" = some ⟨"f", 7⟩ ∧
      stats.items = 3 ∧ stats.succeeded = 3 ∧ stats.failed = 0 := by
  intro note operations c revisions options program
  have bare : Loopback.Bare Repository.nearby.base := ⟨"a".toList, by decide +kernel, by decide⟩
  have before : Loopback.shown? Note.codec Repository.nearby c "b" "c" = some ⟨"d", 5⟩ ∧
      Loopback.shown? Note.codec Repository.nearby c "b" "e" = some ⟨"f", 6⟩ := by decide +kernel
  have readable : ∀ r ∈ revisions,
      (Loopback.shown? Note.codec Repository.nearby c "b" r.id).isSome := by
    simp only [revisions, List.forall_mem_cons, before.1, before.2]
    exact ⟨rfl, rfl, rfl, List.forall_mem_nil _⟩
  have reached : c.client.store = ((Store.empty {}).executeAll operations).2 := by dsimp only [c]
  have room : c.client.store.writes "b" + revisions.length ≤ UInt64.size := by decide +kernel
  have positive : 1 ≤ options.batchSize := by decide
  have again : 1 ≤ options.retries := by decide
  obtain ⟨stats, s', c', run, shown, -, -, items, succeeded, failed, -⟩ :=
    revise_sequentially bare reached Note.recovers_codec positive (by decide) again readable room
  refine ⟨stats, s', c', run, ?_, ?_, items, succeeded, failed⟩
  · rw [shown, before.1]
    decide +kernel
  · rw [shown, before.2]
    decide +kernel

end Session

end VersionedStore
