import VersionedStore.Proofs.Client.Undisturbed

/-!
# Recovery from conflicts

A session that is flushed sends all that waits in one bulk request. The store applies its actions in
their order and refuses some of them. Then the session goes over the answers: an update that met
a conflict, if the change behind it is known, is made again from the document that is there by now,
which may be one that a later item of the same batch has put, or none. All other items have the fate
that their answers tell.

## Main definitions

* `Recovery` — what becomes of an index, and what is reported, when answers are gone over
* `Session.Flushed` — what becomes of a store when a session is flushed
* `Session.Steady` — all documents of a flush have steady numbers

## Main results

* `Outbox.run_settleAll_recovers` — the answers are gone over
* `Session.flush_recovers` — a session is flushed
* `Session.flush_not_verbatim` — flushes that put other numbers than those that they were given
-/

namespace VersionedStore

open Json

variable {α : Type}

/-! ## What is to become of an index -/

/-- What becomes of an index, and what is reported, when the answers to a batch are gone over in
their order. -/
inductive Recovery (passage : Passage) (codec : Codec α) (numbered : Nat → Version) :
    Nat → IndexView → List (Pending α × Wire.Item) → List Report → IndexView → Prop
  | nil (position : Nat) (x : IndexView) : Recovery passage codec numbered position x [] [] x
  /-- An item that did not conflict, or that cannot be made again. -/
  | told {position : Nat} {x x' : IndexView} {p : Pending α} {item : Wire.Item}
    {rest : List (Pending α × Wire.Item)} {reports : List Report}
    (calm : Outbox.conflicting? p item.outcome = none)
    (later : Recovery passage codec numbered (position + 1) x rest reports x') :
    Recovery passage codec numbered position x ((p, item) :: rest)
      (Outbox.report position p item.outcome (Outbox.told item.outcome) :: reports) x'
  /-- A conflicting update, which replaces the document that is there by now. -/
  | replaced {position : Nat} {x x' : IndexView} {p : Pending α} {item : Wire.Item}
    {rest : List (Pending α × Wire.Item)} {reports : List Report} {id : String} {change : α → α}
    {d : Document} {v : Value} (conflict : Outbox.conflicting? p item.outcome = some (id, change))
    (there : x.documents id = some d) (changed : codec.changed? passage change d.source = some v)
    (later : Recovery passage codec numbered (position + 1)
      (x.put id ⟨numbered x.writes, v⟩) rest reports x') :
    Recovery passage codec numbered position x ((p, item) :: rest)
      (Outbox.report position p item.outcome (.retried 1 (numbered x.writes)) :: reports) x'
  /-- A conflicting update of a document that is not there, or that cannot be changed. -/
  | kept {position : Nat} {x x' : IndexView} {p : Pending α} {item : Wire.Item}
    {rest : List (Pending α × Wire.Item)} {reports : List Report} {id : String} {change : α → α}
    (conflict : Outbox.conflicting? p item.outcome = some (id, change))
    (unchanged : ∀ d, x.documents id = some d → codec.changed? passage change d.source = none)
    (kind : FailureKind) (reason : String)
    (later : Recovery passage codec numbered (position + 1) x rest reports x') :
    Recovery passage codec numbered position x ((p, item) :: rest)
      (Outbox.report position p item.outcome (.failed kind reason) :: reports) x'

namespace Recovery

variable {passage : Passage} {codec : Codec α} {numbered : Nat → Version} {position : Nat}
  {x x' : IndexView} {answered : List (Pending α × Wire.Item)} {reports : List Report}

/-- Where all numbers are steady, documents might as well not have been printed and read. -/
theorem verbatim (h : Recovery .printed codec numbered position x answered reports x')
    (changed : ∀ a payload, codec.encode a = .ok payload →
      ∀ v, Store.parseSource payload = .ok v → v.Steady)
    (documents : ∀ id d, x.documents id = some d → d.source.Steady) :
    Recovery .verbatim codec numbered position x answered reports x' := by
  induction h with
  | nil position x => exact .nil position x
  | told calm _ ih => exact .told calm (ih documents)
  | @replaced position x _ p item _ _ id change d v conflict there made _ ih =>
    obtain ⟨payload, -, revised, parsed⟩ := Codec.changed?_eq_some_iff.1 made
    obtain ⟨a, encoded⟩ := Codec.encode_of_revise revised
    rw [Codec.changed?_printed (documents id d there)] at made
    refine .replaced conflict there made (ih fun key d' found => ?_)
    -- The document that was put is one that the codec wrote.
    rw [IndexView.documents_put] at found
    split at found
    · rw [← Option.some.inj found]
      exact changed a payload encoded v parsed
    · exact documents key d' found
  | kept conflict unchanged kind reason _ ih =>
    refine .kept conflict (fun d there => ?_) kind reason (ih documents)
    rw [← Codec.changed?_printed (documents _ d there)]
    exact unchanged d there

/-- Where nothing is made again, the index stays as it is. -/
theorem eq_of_calm (h : Recovery passage codec numbered position x answered reports x')
    (calm : ∀ e ∈ answered, Outbox.conflicting? e.1 e.2.outcome = none) : x' = x := by
  induction h with
  | nil => rfl
  | told _ _ ih => exact ih fun e among => calm e (List.mem_cons_of_mem _ among)
  | replaced conflict | kept conflict =>
    rw [calm _ List.mem_cons_self] at conflict
    cases conflict

theorem length_eq (h : Recovery passage codec numbered position x answered reports x') :
    reports.length = answered.length := by
  induction h with
  | nil => rfl
  | told _ _ ih | replaced _ _ _ _ ih | kept _ _ _ _ _ ih =>
    rw [List.length_cons, List.length_cons, ih]

end Recovery

/-- The index of the actions of a bulk request that name none. -/
def Server.defaultIndex? (index : String) : Option String :=
  if index = "" then none else some index

namespace Session

variable (s : Session α) (passage : Passage) (store : Store)

/-- The answers to what waits in a session, and the store that they leave. -/
def applied : List Wire.Item × Store :=
  store.applyAll (Server.defaultIndex? s.outbox.index)
    (s.buffer.items.map fun p => passage.action p.intent.action)

/-- What becomes of a store when a session is flushed: all actions that wait are applied, and then
the answers are gone over. -/
structure Flushed (reports : List Report) (store' : Store) : Prop where
  recovery : Recovery passage s.outbox.codec store.numbered 0
    ((s.applied passage store).2.view s.outbox.index)
    (s.buffer.items.zip (s.applied passage store).1) reports (store'.view s.outbox.index)
  rest : ∀ name id, name ≠ s.outbox.index →
    store'.document? name id = (s.applied passage store).2.document? name id

/-- No number that is printed for a flush is read as another one. -/
structure Steady : Prop where
  payloads : ∀ p ∈ s.buffer.items, ∀ payload ∈ p.intent.action.source, octet '\n' ∈ payload →
    ∀ v, Value.parse? payload = some v → v.Steady
  documents : ∀ id d, (s.applied .verbatim store).2.document? s.outbox.index id = some d →
    d.source.Steady
  changed : ∀ a payload, s.outbox.codec.encode a = .ok payload →
    ∀ v, Store.parseSource payload = .ok v → v.Steady

end Session

/-! ## Answers -/

namespace Outbox

variable (b : Outbox α)

/-- The items that conflicted and can be made again name an index and a document. -/
def Addressed (answered : List (Pending α × Wire.Item)) : Prop :=
  ∀ e ∈ answered, ∀ r, conflicting? e.1 e.2.outcome = some r → b.index ≠ "" ∧ r.1 ≠ ""

variable {http : HttpConfig} (bare : Loopback.Bare http.base) (again : 0 < b.config.retries)
  {c : Http.Connection Server}

include bare again

/-- The answers to a batch are gone over, while nobody else writes. -/
theorem run_settleAll_recovers {answered : List (Pending α × Wire.Item)}
    (addressed : b.Addressed answered) (position : Nat) (sent : c.client.store.Sent) :
    ∃ reports x c', (b.settleAll position answered).run (Loopback.transport http) c =
        (reports, c') ∧
      Recovery .printed b.codec c.client.store.numbered position
        (c.client.store.view b.index) answered reports x ∧
      c.client.store.Turns b.index x c'.client.store := by
  induction answered generalizing position c with
  | nil => exact ⟨[], _, c, rfl, .nil position _, .refl _ _⟩
  | cons entry rest ih =>
    obtain ⟨p, item⟩ := entry
    obtain ⟨first, addressed⟩ := List.forall_mem_cons.1 addressed
    cases conflict : conflicting? p item.outcome with
    | none =>
      obtain ⟨reports, x, c', run, recovery, turns⟩ := ih addressed (position + 1) sent
      refine ⟨_, x, c', ?_, .told conflict recovery, turns⟩
      rw [settleAll, b.settle_of_calm conflict, Program.bind, Program.run_bind, run]
      rfl
    | some revision =>
      obtain ⟨id, change⟩ := revision
      obtain ⟨named, known⟩ : b.index ≠ "" ∧ id ≠ "" := first _ conflict
      have settled := b.settle_of_conflicting again conflict
      -- Either there is a document that can be changed, or nothing can be done.
      by_cases ready : ∃ d v, c.client.store.document? b.index id = some d ∧
          b.codec.changed? .printed change d.source = some v
      · obtain ⟨d, v, there, changed⟩ := ready
        obtain ⟨ack, c₁, updated, version, turns₁⟩ := Updater.run_update_changed bare
          (u := b.updater) sent named known there changed
        obtain ⟨reports, x, c', run, recovery, turns⟩ :=
          ih addressed (position + 1) (turns₁.sent sent)
        have looks : c₁.client.store.view b.index = (c.client.store.view b.index).put id
            ⟨c.client.store.numbered (c.client.store.writes b.index), v⟩ :=
          version ▸ turns₁.view
        rw [turns₁.numbered_eq, looks] at recovery
        refine ⟨_, x, c', ?_, .replaced conflict there changed recovery, turns₁.trans turns⟩
        rw [settleAll, settled, Program.bind_assoc, Program.run_bind, updated, Program.bind,
          Program.run_bind, run]
        simp only [retriedStatus, version]
        rfl
      · have unchanged : ∀ d, c.client.store.document? b.index id = some d →
            b.codec.changed? .printed change d.source = none := fun d there =>
          Option.eq_none_iff_forall_ne_some.2 fun v changed => ready ⟨d, v, there, changed⟩
        obtain ⟨e, failed⟩ := Updater.run_update_unchanged bare (u := b.updater) sent named known
          unchanged
        obtain ⟨reports, x, c', run, recovery, turns⟩ :=
          ih (c := ⟨c.client, none⟩) addressed (position + 1) sent
        refine ⟨_, x, c', ?_, .kept conflict unchanged e.failureKind e.message recovery, turns⟩
        rw [settleAll, settled, Program.bind_assoc, Program.run_bind, failed, Program.bind,
          Program.run_bind, run]
        rfl

end Outbox

/-! ## Batches -/

section Batch

/-- A bulk request to an index without a name has no index for actions that name none. -/
theorem Server.answer_bulk_unnamed (s : Server) {actions : List Action} {body : Bytes}
    (decoded : Bulk.decode body = .ok actions) (refresh : RefreshPolicy) :
    s.answer ⟨"POST", String.ofList (Target.pathOf ["", "_bulk"] ++
        '?' :: Target.queryOf [("refresh", refresh.param)]), body⟩ =
      s.onStore (s.store.bulk none actions refresh) fun r => .ofText 200 r.toText := by
  have route : Route.ofSegments? "POST" (["", "_bulk"].filter (· ≠ "")) = some (.bulk none) := by
    simp [Route.ofSegments?]
  have policy : Params.refreshPolicy (.ofList [("refresh", refresh.param)]) = .ok refresh :=
    Http.refreshPolicy_of_find? refresh (by simp [Table.ofList])
  rw [answer]
  simp only [Target.parse_pathOf_queryOf _ (show [("refresh", refresh.param)] ≠ [] by simp), route,
    run, bulk, decoded, policy, Except.mapError]

/-- Without an index for them, all actions that name none are refused. -/
theorem Store.applyAll_nowhere (s : Store) {as : List Action} (unnamed : ∀ a ∈ as, a.index = none) :
    s.applyAll none as =
      (as.map fun a => ⟨a.kind, failure none a.id (.request .noIndexNamed)⟩, s) := by
  induction as with
  | nil => rfl
  | cons a as ih =>
    obtain ⟨first, rest⟩ := List.forall_mem_cons.1 unnamed
    have refused : s.apply none a = (⟨a.kind, failure none a.id (.request .noIndexNamed)⟩, s) := by
      simp only [apply, first, Option.or_none]
    rw [applyAll, refused, ih rest, List.map_cons]

variable {http : HttpConfig} (bare : Loopback.Bare http.base) {c : Http.Connection Server}

include bare

/-- A bulk request of complete actions is carried out, whether or not its index has a name. -/
theorem Loopback.transport_bulk_default (index : String) {actions : List Action}
    (complete : ∀ a ∈ actions, a.Complete) (refresh : RefreshPolicy)
    (few : actions.length ≤ c.client.store.config.maxActions) :
    transport http (.bulk index actions refresh) c =
      (.ok (c.client.store.applyAll (Server.defaultIndex? index)
          (actions.map Action.carried)).1,
        ⟨{ c.client with store := (c.client.store.bulk (Server.defaultIndex? index)
          (actions.map Action.carried) refresh).2 }, none⟩) := by
  rw [Server.defaultIndex?]
  split
  · next unnamed =>
    subst unnamed
    obtain ⟨body, encoded, decoded⟩ := Bulk.decodeLines_encode complete
    rw [transport_of_answer bare (Http.draft_bulk "" encoded refresh) rfl
      (c.client.answer_bulk_unnamed (decoded 1) refresh)]
    have fits : (actions.map Action.carried).length ≤ c.client.store.config.maxActions := by
      simpa using few
    rw [Store.bulk_of_few _ _ fits]
    simp only [Server.told, Http.answer, Http.decode, Reply.ofText, Wire.BulkReply.parse?_toText]
    rfl
  · next named => exact transport_bulk bare c named complete refresh few

end Batch

theorem Intent.index_action (i : Intent) : i.action.index = none := by cases i <;> rfl

namespace Session

variable (s : Session α) {store : Store}

/-- An item that conflicts was sent to an index with a name, and its document has an id. -/
theorem addressed_applied (passage : Passage)
    (known : ∀ p ∈ s.buffer.items, p.intent.id? ≠ some "") :
    s.outbox.Addressed (s.buffer.items.zip (s.applied passage store).1) := by
  rintro ⟨p, item⟩ among ⟨id, change⟩ conflict
  obtain ⟨waits, answers⟩ := List.of_mem_zip among
  dsimp only at conflict ⊢
  unfold Outbox.conflicting? at conflict
  split at conflict
  case isFalse => cases conflict
  case isTrue kind =>
    refine ⟨fun unnamed => ?_, ?_⟩
    · -- Without an index the item would have been refused as a faulty one.
      have faulty : ∀ a ∈ s.buffer.items.map fun p => passage.action p.intent.action,
          a.index = none :=
        List.forall_mem_map.2 fun p _ => p.intent.index_action
      rw [applied, Server.defaultIndex?, if_pos unnamed, store.applyAll_nowhere faulty] at answers
      obtain ⟨a, -, rfl⟩ := List.mem_map.1 answers
      cases kind
    · unfold Outbox.revision? at conflict
      split at conflict
      · next intent change' =>
        rintro rfl
        obtain ⟨rfl, -⟩ := Prod.mk.inj (Option.some.inj conflict)
        exact known p waits (by rw [intent]; rfl)
      · cases conflict

variable {http : HttpConfig} (bare : Loopback.Bare http.base) {c : Http.Connection Server}

include bare

/-- All that waits is sent, and the answers are gone over. -/
theorem run_dispatch_recovers (again : 0 < s.outbox.config.retries)
    (few : s.buffer.items.length ≤ c.client.store.config.maxActions) (sent : c.client.store.Sent)
    (known : ∀ p ∈ s.buffer.items, p.intent.id? ≠ some "")
    (objects : ∀ p ∈ s.buffer.items, ∀ payload ∈ p.intent.action.source,
      ∃ v, Store.parseSource payload = .ok v) :
    ∃ reports c', (s.outbox.dispatch s.buffer.items).run (Loopback.transport http) c =
        (.ok (.ofReports reports), c') ∧
      s.Flushed .printed c.client.store reports c'.client.store := by
  by_cases empty : s.buffer.items = []
  · refine ⟨[], c, ?_, ?_, fun name id _ => ?_⟩
    · rw [Outbox.dispatch, empty]
      rfl
    · rw [applied, empty]
      exact .nil 0 _
    · rw [applied, empty]
      rfl
  · have complete : ∀ a ∈ s.buffer.items.map fun p => p.intent.action, a.Complete :=
      List.forall_mem_map.2 fun p hp => p.intent.complete_action (objects p hp)
    have bulk := Loopback.transport_bulk_default bare (c := c) s.outbox.index complete
      s.outbox.config.refresh (by simpa using few)
    have arrived : (s.buffer.items.map fun p => p.intent.action).map Action.carried =
        s.buffer.items.map fun p => Passage.printed.action p.intent.action := by
      rw [List.map_map]
      rfl
    have length : (s.applied .printed c.client.store).1.length = s.buffer.items.length := by
      rw [applied, Store.length_applyAll, List.length_map]
    have reaches : c.client.store.Reaches _ (s.applied .printed c.client.store).2 :=
      c.client.store.reaches_applyAll _ _
    have answered : s.outbox.Addressed
        (s.buffer.items.zip (s.applied .printed c.client.store).1) :=
      s.addressed_applied .printed known
    rw [arrived, c.client.store.bulk_of_few _ (by simpa using few), ← applied] at bulk
    -- What is published then leaves the documents as they are.
    generalize published : (Store.touched (s.applied .printed c.client.store).1).foldl
      (fun store name => store.settle name s.outbox.config.refresh)
      (s.applied .printed c.client.store).2 = settled at bulk
    have turned : (s.applied .printed c.client.store).2.Turns s.outbox.index
        ((s.applied .printed c.client.store).2.view s.outbox.index) settled := by
      rw [← published]
      exact .of_same (Store.reaches_settleAll _ _ _) (Store.sameDocuments_settleAll _ _ _)
    obtain ⟨reports, x, c', run, recovery, turns⟩ := s.outbox.run_settleAll_recovers bare again
      (c := ⟨{ c.client with store := settled }, none⟩) answered 0 (turned.sent (reaches.sent sent))
    have numbered : settled.numbered = c.client.store.numbered :=
      turned.numbered_eq.trans reaches.evolves.numbered_eq
    rw [numbered, turned.view] at recovery
    refine ⟨reports, c', ?_, turns.view ▸ recovery, (turned.trans turns).rest⟩
    rw [Outbox.dispatch, if_neg (by simpa using empty), Program.run, bulk]
    simp only [length, if_true]
    rw [Program.run_bind, run]
    rfl

omit bare

/-- Where all numbers are steady, the actions that wait do what they did before they were sent. -/
theorem Steady.applied_eq (steady : s.Steady store) :
    s.applied .printed store = s.applied .verbatim store := by
  have alike : List.Forall₂ Action.Alike
      (s.buffer.items.map fun p => Passage.verbatim.action p.intent.action)
      (s.buffer.items.map fun p => Passage.printed.action p.intent.action) := by
    rw [List.forall₂_map_left_iff, List.forall₂_map_right_iff, List.forall₂_same]
    exact fun p hp => StoreCall.alike_printed fun _ => steady.payloads p hp
  exact store.applyAll_of_alike alike _

theorem Flushed.verbatim {reports : List Report} {store' : Store}
    (h : s.Flushed .printed store reports store') (steady : s.Steady store) :
    s.Flushed .verbatim store reports store' where
  recovery := by
    rw [← steady.applied_eq]
    refine h.recovery.verbatim steady.changed ?_
    rw [steady.applied_eq]
    exact steady.documents
  rest := by
    rw [← steady.applied_eq]
    exact h.rest

/-- Where nothing is made again, the documents are as the actions have left them. -/
theorem Flushed.document?_of_calm {passage : Passage} {reports : List Report} {store' : Store}
    (h : s.Flushed passage store reports store')
    (calm : ∀ e ∈ s.buffer.items.zip (s.applied passage store).1,
      Outbox.conflicting? e.1 e.2.outcome = none) (id : String) :
    store'.document? s.outbox.index id =
      (s.applied passage store).2.document? s.outbox.index id :=
  congrFun (congrArg IndexView.documents (h.recovery.eq_of_calm calm)) id

/-- A conflicting update that is alone leaves its document changed, if it can be changed. -/
theorem Flushed.source_of_alone {passage : Passage} {reports : List Report} {store' : Store}
    (h : s.Flushed passage store reports store') {p : Pending α} {item : Wire.Item}
    (alone : s.buffer.items.zip (s.applied passage store).1 = [(p, item)]) {id : String}
    {change : α → α} (conflict : Outbox.conflicting? p item.outcome = some (id, change)) :
    (store'.document? s.outbox.index id).map Document.source =
      ((s.applied passage store).2.document? s.outbox.index id).map fun d =>
        (s.outbox.codec.changed? passage change d.source).getD d.source := by
  have recovery := h.recovery
  rw [alone] at recovery
  cases recovery with
  | told calm =>
    rw [conflict] at calm
    cases calm
  | replaced same there changed later =>
    obtain ⟨rfl, rfl⟩ := Prod.mk.inj (Option.some.inj (conflict.symm.trans same))
    have last := later.eq_of_calm (List.forall_mem_nil _)
    have left := congrFun (congrArg IndexView.documents last) id
    rw [IndexView.documents_put, if_pos rfl, Store.documents_view] at left
    rw [Store.documents_view] at there
    rw [left, there, Option.map_some, Option.map_some, changed]
    rfl
  | kept same unchanged kind reason later =>
    obtain ⟨rfl, rfl⟩ := Prod.mk.inj (Option.some.inj (conflict.symm.trans same))
    have last := later.eq_of_calm (List.forall_mem_nil _)
    have left := congrFun (congrArg IndexView.documents last) id
    rw [Store.documents_view, Store.documents_view] at left
    rw [left]
    refine Option.map_congr fun d there => ?_
    rw [unchanged d there]
    rfl

/-- For every state of the store that operations lead to, and whatever waits in a session, with
documents that the store takes and ids that are not empty: if the session is flushed while nobody
else writes, the actions are applied in their order. Then each update that met a conflict, and whose
change is known, replaces the document that is there by now by what the change makes of it, and is
reported as retried with the version of that; if no document is there that can be changed, it is
reported as failed. All others are reported as they were answered. What is sent on several lines,
and what is read, has been printed and read on the way; where all numbers are steady this makes no
difference. -/
theorem flush_recovers {http : HttpConfig} (bare : Loopback.Bare http.base) {config : StoreConfig}
    {ids : NameSupply} {operations : List Operation} {c : Http.Connection Server}
    (reached : c.client.store = ((Store.empty config ids).executeAll operations).2) {s : Session α}
    (again : 1 ≤ s.outbox.config.retries) (few : s.buffer.items.length ≤ config.maxActions)
    (known : ∀ p ∈ s.buffer.items, p.intent.id? ≠ some "")
    (objects : ∀ p ∈ s.buffer.items, ∀ payload ∈ p.intent.action.source,
      ∃ v, Store.parseSource payload = .ok v) :
    ∃ reports s' c', s.flush.run (Loopback.transport http) c = ((.ok (.ofReports reports), s'), c') ∧
      reports.length = s.buffer.items.length ∧
      s.Flushed .printed c.client.store reports c'.client.store ∧
      (s.Steady c.client.store → s.Flushed .verbatim c.client.store reports c'.client.store) := by
  have reaches := (Store.empty config ids).reaches_executeAll operations
  rw [← reached] at reaches
  have fits : s.buffer.items.length ≤ c.client.store.config.maxActions := by
    rw [reaches.config]
    exact few
  obtain ⟨reports, c', dispatched, flushed⟩ := s.run_dispatch_recovers bare again fits
    (reaches.sent (Store.sent_empty config)) known objects
  refine ⟨reports, absorb { s with buffer := s.buffer.take.2 } s.buffer.items (.ofReports reports), c', ?_, ?_,
    flushed, flushed.verbatim s⟩
  · rw [flush, send, Program.run_bind]
    simp only [Buffer.take]
    rw [dispatched]
    rfl
  · rw [flushed.recovery.length_eq, List.length_zip, applied, Store.length_applyAll,
      List.length_map, Nat.min_self]

/-- An update that conflicts is made again from what a later item of its batch has put; one of
a document that a later item has deleted is not. -/
theorem flush_recovers_mixed :
    let note (n : Note) : Bytes := (Note.codec.encode n).toOption.getD []
    let operations : List Operation :=
      [.write "b" (some "c") .index none (note ⟨"d", 5⟩) .none,
        .write "b" (some "e") .index none (note ⟨"f", 6⟩) .none]
    let c : Http.Connection Server := ⟨⟨((Store.empty {}).executeAll operations).2, .empty⟩, none⟩
    let items : List (Pending Note) :=
      [{ intent := .update "c" ⟨1, 9⟩ (note ⟨"d", 6⟩), change := some Note.incremented },
        { intent := .update "e" ⟨1, 9⟩ (note ⟨"f", 7⟩), change := some Note.incremented },
        { intent := .upsert "c" (note ⟨"d", 20⟩) }, { intent := .delete "e" none }]
    let s : Session Note := ⟨⟨Note.codec, "b", { retries := 1 }⟩, ⟨items, false⟩, {}, []⟩
    ∃ reports s' c', s.flush.run (Loopback.transport Repository.nearby) c =
        ((.ok (.ofReports reports), s'), c') ∧
      s.Flushed .printed c.client.store reports c'.client.store ∧
      reports.map Report.status = [.retried 1 ⟨1, 4⟩, .failed .notFound "document not found: e",
        .succeeded (some ⟨1, 2⟩), .succeeded (some ⟨1, 3⟩)] ∧
      c'.client.store.shown? Note.codec "b" "c" = some ⟨"d", 21⟩ ∧
      c'.client.store.shown? Note.codec "b" "e" = none := by
  intro note operations c items s
  have bare : Loopback.Bare Repository.nearby.base := ⟨"a".toList, by decide +kernel, by decide⟩
  have known : ∀ p ∈ s.buffer.items, p.intent.id? ≠ some "" := by simp [s, items, Intent.id?]
  have objects : ∀ p ∈ s.buffer.items, ∀ payload ∈ p.intent.action.source,
      ∃ v, Store.parseSource payload = .ok v := by
    have taken (n : Note) : ∀ payload ∈ some (note n), ∃ v, Store.parseSource payload = .ok v :=
      fun payload given => ⟨n.value, Option.some.inj given ▸ n.parseSource_encode⟩
    simp only [s, items, List.forall_mem_cons]
    exact ⟨taken _, taken _, taken _, fun _ given => absurd given (Option.not_mem_none _),
      List.forall_mem_nil _⟩
  have reached : c.client.store = ((Store.empty {}).executeAll operations).2 := by dsimp only [c]
  obtain ⟨reports, s', c', run, -, flushed, -⟩ :=
    flush_recovers bare reached (s := s) (by decide) (by decide) known objects
  have seen : (fun r : (Except ClientError BatchOutcome × Session Note) × Http.Connection Server =>
      (r.1.1.toOption.map fun o => o.reports.map Report.status,
        r.2.client.store.shown? Note.codec "b" "c", r.2.client.store.shown? Note.codec "b" "e"))
      (s.flush.run (Loopback.transport Repository.nearby) c) =
        (some [.retried 1 ⟨1, 4⟩, .failed .notFound "document not found: e",
          .succeeded (some ⟨1, 2⟩), .succeeded (some ⟨1, 3⟩)], some ⟨"d", 21⟩, none) := by
    decide +kernel
  rw [run] at seen
  obtain ⟨statuses, shown⟩ := Prod.mk.inj seen
  have statuses : (BatchOutcome.ofReports reports).reports.map Report.status = _ :=
    Option.some.inj statuses
  rw [BatchOutcome.reports_ofReports] at statuses
  exact ⟨reports, s', c', run, flushed, statuses, Prod.mk.inj shown⟩

/-- A document on several lines is not always stored as it was sent, and a change that changes
nothing does not always leave a document as it is: numbers are printed and read on the way. -/
theorem flush_not_verbatim :
    let several := Utf8.encode "\x7b\n\"x\":7263450810061301e32\x7d"
    let measured := Utf8.encode "\x7b\"x\":3.9942566682411616e276\x7d"
    let session (p : Pending Value) : Session Value :=
      ⟨⟨Codec.json, "b", { retries := 1 }⟩, ⟨[p], false⟩, {}, []⟩
    let connection (operations : List Operation) : Http.Connection Server :=
      ⟨⟨((Store.empty {}).executeAll operations).2, .empty⟩, none⟩
    let flushed (p : Pending Value) (operations : List Operation) : Store :=
      ((session p).flush.run (Loopback.transport Repository.nearby)
        (connection operations)).2.client.store
    ([several, measured].all fun payload =>
      (Store.parseSource payload).toOption.any fun v => v.depth ≤ 120) ∧
      (let p : Pending Value := { intent := .upsert "c" several }
      ∀ reports, ¬(session p).Flushed .verbatim (connection []).client.store reports
        (flushed p [])) ∧
      (let p : Pending Value := { intent := .update "c" ⟨1, 9⟩ measured, change := some id }
      let operations : List Operation := [.write "b" (some "c") .index none measured .none]
      ∀ reports, ¬(session p).Flushed .verbatim (connection operations).client.store reports
        (flushed p operations)) := by
  intro several measured session connection flushed
  refine ⟨by decide +kernel, ?_, ?_⟩
  · intro p reports h
    have calm : ∀ e ∈ (session p).buffer.items.zip
        ((session p).applied .verbatim (connection []).client.store).1,
        Outbox.conflicting? e.1 e.2.outcome = none := by
      intro e among
      rw [List.mem_singleton.1 (List.of_mem_zip among).1]
      exact ite_self none
    have same := h.document?_of_calm (session p) calm "c"
    have other : ((flushed p []).document? (session p).outbox.index "c").map
          (fun d => d.source.write) ≠
        (((session p).applied .verbatim (connection []).client.store).2.document?
          (session p).outbox.index "c").map fun d => d.source.write := by
      decide +kernel
    rw [same] at other
    exact other rfl
  · intro p operations reports h
    have kinds : (((session p).applied .verbatim (connection operations).client.store).1.map
        fun i => i.outcome.failureKind?) = [some .conflict] := by decide +kernel
    obtain ⟨item, one, kind⟩ := List.map_eq_singleton_iff.1 kinds
    have alone : (session p).buffer.items.zip
        ((session p).applied .verbatim (connection operations).client.store).1 = [(p, item)] := by
      rw [one]
      rfl
    have conflict : Outbox.conflicting? p item.outcome = some ("c", id) := if_pos kind
    have same := h.source_of_alone (session p) alone conflict
    have other : (((flushed p operations).document? (session p).outbox.index "c").map
          Document.source).map Value.write ≠
        ((((session p).applied .verbatim (connection operations).client.store).2.document?
          (session p).outbox.index "c").map fun d =>
            ((session p).outbox.codec.changed? .verbatim id d.source).getD d.source).map
              Value.write := by
      decide +kernel
    rw [same] at other
    exact other rfl

end Session

end VersionedStore
