import VersionedStore.Client.Session
import VersionedStore.Proofs.Client.Calls
import VersionedStore.Proofs.Testing.Note
import VersionedStore.Testing.Fixture
import VersionedStore.Testing.Model

/-!
# Sessions do what the model tells

A session sends writes of notes in batches. Whatever the size of a batch, the store has done
what the model does with the writes that were sent, the totals of the session are those of the
model, and the writes that are not sent yet wait in their order; so at the end nothing depends
on where the batches were cut.

## Main definitions

* `Model.Step.action`, `Model.Step.pending` — a write as an action and as an item
* `Store.Holds` — an index has the documents of notes
* `Session.play` — writes are added in order, then the session is closed
* `Session.Follows` — the session has sent some writes, and others wait

## Main results

* `Store.holds_applyAll` — a store applies actions as the model does
* `Session.play_refines_model` — a session that is closed has done what the model tells
-/

namespace VersionedStore

open Json

/-! ## Writes -/

namespace Model.Step

/-- What a session is asked to write. -/
def intent : Step → Intent
  | upsert id note => .upsert id note.toText.write
  | create id note => .create (some id) note.toText.write
  | delete id => .delete id none

/-- The action of a write. -/
def action (step : Step) : Action := step.intent.action

/-- The item of a write. -/
def pending (step : Step) : Pending Note := { intent := step.intent }

/-- The encoding of a note is JSON, and stands on one line. -/
private theorem encoding (n : Note) :
    (Text.parse? n.toText.write).isSome = true ∧ octet '\n' ∉ n.toText.write := by
  rw [Text.parse?_write n.wellFormed_toText]
  exact ⟨rfl, n.wellFormed_toText.lineFeed_notMem⟩

theorem complete_action (step : Step) : step.action.Complete := by
  cases step with
  | upsert id note | create id note =>
    obtain ⟨form, oneLine⟩ := encoding note
    exact ⟨fun _ => ⟨_, rfl, form, fun h => absurd h oneLine⟩, fun h => by simp [action, intent,
      Intent.action, Action.put, Action.create, Action.Kind.hasSource] at h, fun _ => rfl⟩
  | delete id =>
    refine ⟨fun h => ?_, fun _ => rfl, fun _ => rfl⟩
    simp [action, intent, Intent.action, Action.delete, Action.Kind.hasSource] at h

theorem carried_action (step : Step) : step.action.carried = step.action := by
  cases step with
  | upsert id note | create id note =>
    have kept : Bulk.onOneLine note.toText.write = note.toText.write := by
      rw [Bulk.onOneLine, if_neg (encoding note).2]
    simp [action, intent, Intent.action, Action.put, Action.create, Action.carried, kept]
  | delete id => rfl

end Model.Step

/-! ## The store -/

namespace Store

/-- An index has the documents of notes. -/
def Holds (s : Store) (name : String) (documents : Table Note) : Prop :=
  (s.indexOrEmpty name).live.entries.map (fun e => (e.1, e.2.source)) =
    documents.entries.map fun e => (e.1, e.2.value)

variable {s s' : Store} {name : String} {documents : Table Note}

theorem Holds.contains (h : s.Holds name documents) (id : String) :
    (s.document? name id).isSome = documents.contains id := by
  have same := congrArg (Entries.find? id) h
  rw [Entries.find?_map Document.source, Entries.find?_map Note.value] at same
  have both := congrArg Option.isSome same
  rwa [Option.isSome_map, Option.isSome_map] at both

theorem Holds.of_sameDocuments (h : s.Holds name documents) (same : s.SameDocuments s') :
    s'.Holds name documents := by
  rw [Holds, same.live]
  exact h

theorem Holds.insert (h : s.Holds name documents) (id : String) (v : Version) (n : Note) :
    (s.setIndex name ((s.indexOrEmpty name).written
      ((s.indexOrEmpty name).live.insert id ⟨v, n.value⟩))).Holds name (documents.insert id n) := by
  rw [Holds, indexOrEmpty_setIndex, if_pos rfl]
  simp only [Index.written, Table.insert]
  rw [Entries.map_insert Document.source, Entries.map_insert Note.value, h]

theorem Holds.erase (h : s.Holds name documents) (id : String) :
    (s.setIndex name ((s.indexOrEmpty name).written
      ((s.indexOrEmpty name).live.erase id))).Holds name (documents.erase id) := by
  rw [Holds, indexOrEmpty_setIndex, if_pos rfl]
  simp only [Index.written, Table.erase]
  rw [Entries.map_erase Document.source, Entries.map_erase Note.value, h]

/-- The store applies an action exactly if the model does, and has the same documents then. -/
theorem holds_apply (h : s.Holds name documents) {step : Model.Step}
    {applied : Option (Table Note)} (happlied : step.apply? documents = applied) :
    (s.apply (some name) step.action).1.outcome.isSuccess = applied.isSome ∧
      (s.apply (some name) step.action).2.Holds name (applied.getD documents) := by
  subst happlied
  have live := h.contains
  cases step with
  | upsert id note =>
    simp only [Model.Step.action, Model.Step.intent, Intent.action, Action.put, apply,
      Option.none_or, actionId, applyAt, Action.Kind.mode?, note.parseSource_encode, writeAt,
      change, Index.put, Index.current, Model.Step.apply?]
    exact ⟨isSuccess_success name _, h.insert id _ note⟩
  | create id note =>
    simp only [Model.Step.action, Model.Step.intent, Intent.action, Action.create, apply,
      Option.none_or, actionId, applyAt, Action.Kind.mode?, note.parseSource_encode, writeAt,
      change, Index.put, Index.current, Model.Step.apply?, ← live id, document?]
    cases found : (s.indexOrEmpty name).live.find? id with
    | none => exact ⟨isSuccess_success name _, h.insert id _ note⟩
    | some d =>
      exact ⟨isSuccess_failure _ _ _, h.of_sameDocuments (s.alike_setIndex name).sameDocuments⟩
  | delete id =>
    simp only [Model.Step.action, Model.Step.intent, Intent.action, Action.delete, apply,
      Option.none_or, actionId, applyAt, Action.Kind.mode?, deleteAt, change, Index.remove,
      Index.current, Model.Step.apply?, ← live id, document?]
    cases found : (s.indexOrEmpty name).live.find? id with
    | none =>
      exact ⟨isSuccess_failure _ _ _, h.of_sameDocuments (s.alike_setIndex name).sameDocuments⟩
    | some d => exact ⟨isSuccess_success name _, h.erase id⟩

/-- A store applies actions as the model does. -/
theorem holds_applyAll (m : Model) (h : s.Holds name m.documents) (steps : List Model.Step) :
    (s.applyAll (some name) (steps.map Model.Step.action)).2.Holds name
        (steps.foldl Model.step m).documents ∧
      (steps.foldl Model.step m).succeeded = m.succeeded +
        (s.applyAll (some name) (steps.map Model.Step.action)).1.countP (·.outcome.isSuccess) ∧
      (steps.foldl Model.step m).failed = m.failed +
        (s.applyAll (some name) (steps.map Model.Step.action)).1.countP (!·.outcome.isSuccess) := by
  induction steps generalizing s m with
  | nil => exact ⟨h, rfl, rfl⟩
  | cons step steps ih =>
    have others := ih (m.step step) (s := (s.apply (some name) step.action).2)
    rw [Model.step] at others
    simp only [List.map_cons, List.foldl_cons, applyAll, List.countP_cons]
    cases hs : step.apply? m.documents with
    | none =>
      obtain ⟨success, applied⟩ := holds_apply h hs
      rw [hs] at others
      obtain ⟨held, succeeded, failed⟩ := others applied
      rw [Model.step, hs, success]
      refine ⟨held, ?_, ?_⟩
      · simpa using succeeded
      · rw [failed]
        simp only [Option.isSome_none, Bool.not_false, ↓reduceIte]
        omega
    | some documents =>
      obtain ⟨success, applied⟩ := holds_apply h hs
      rw [hs] at others
      obtain ⟨held, succeeded, failed⟩ := others applied
      rw [Model.step, hs, success]
      refine ⟨held, ?_, ?_⟩
      · rw [succeeded]
        simp only [Option.isSome_some, ↓reduceIte]
        omega
      · simpa using failed

/-- A store carries out a bulk request as the model does its writes. -/
theorem holds_bulk (m : Model) (h : s.Holds name m.documents) {steps : List Model.Step}
    (few : steps.length ≤ s.config.maxActions) (refresh : RefreshPolicy) :
    (s.bulk (some name) (steps.map Model.Step.action) refresh).2.Holds name
      (steps.foldl Model.step m).documents := by
  rw [bulk_of_few _ _ (by simpa using few)]
  have applied := (holds_applyAll m h steps).1
  -- What is published afterwards leaves the documents as they are.
  generalize (s.applyAll (some name) (steps.map Model.Step.action)).2 = s' at applied
  generalize touched _ = names
  induction names generalizing s' with
  | nil => exact applied
  | cons other names ih =>
    exact ih _ (applied.of_sameDocuments (s'.sameDocuments_settle other refresh))

end Store

/-! ## Batches -/

namespace Outbox

variable {α : Type} (b : Outbox α)

/-- The fate of an item that is no update is what the store tells. -/
theorem settle_of_no_revision {p : Pending α} (h : revision? p = none) (o : Wire.Outcome) :
    ∃ status, b.settle p o = .done status ∧ status.isSuccess = o.isSuccess := by
  unfold settle verdict Wire.Outcome.failureKind?
  cases ho : o.isSuccess with
  | true => exact ⟨_, rfl, rfl⟩
  | false =>
    simp only [h]
    exact ⟨_, rfl, rfl⟩

theorem settleAll_of_no_revision (position : Nat) {batch : List (Pending α × Wire.Item)}
    (h : ∀ e ∈ batch, revision? e.1 = none) :
    ∃ reports, b.settleAll position batch = .done reports ∧
      reports.map (·.status.isSuccess) = batch.map (·.2.outcome.isSuccess) := by
  induction batch generalizing position with
  | nil => exact ⟨[], rfl, rfl⟩
  | cons e batch ih =>
    obtain ⟨status, hs, success⟩ := b.settle_of_no_revision (h e List.mem_cons_self) e.2.outcome
    obtain ⟨reports, hr, successes⟩ := ih (position + 1) fun e he => h e (List.mem_cons_of_mem _ he)
    refine ⟨report position e.1 e.2.outcome status :: reports, ?_, ?_⟩
    · rw [settleAll, hs, hr]
      rfl
    · rw [List.map_cons, List.map_cons, successes]
      exact congrArg (· :: _) success

end Outbox

namespace Session

/-- Takes a write. -/
def take (s : Session Note) : Model.Step → Program (Except ClientError Unit × Session Note)
  | .upsert id note => s.index (some id) note false
  | .create id note => s.index (some id) note true
  | .delete id => s.delete id none

/-- Takes writes in order and closes the session; the first failure ends it. -/
def play (s : Session Note) : List Model.Step → Program (Except ClientError Stats × Session Note)
  | [] => s.close
  | step :: steps =>
    (s.take step).bind fun
      | (.error e, s) => .done (.error e, s)
      | (.ok _, s) => s.play steps

/-- A session has sent some writes, all in batches that the store takes, and the store and the
totals are what the model tells of these writes. -/
structure HasSent (s : Session Note) (c : Http.Connection Server) (sent : List Model.Step) :
    Prop where
  codec : s.outbox.codec = Note.codec
  named : s.outbox.index ≠ ""
  size : s.outbox.config.threshold ≤ c.client.store.config.maxActions
  documents : c.client.store.Holds s.outbox.index (Model.run sent).documents
  succeeded : s.stats.succeeded = (Model.run sent).succeeded
  failed : s.stats.failed = (Model.run sent).failed

variable {http : HttpConfig} (bare : Loopback.Bare http.base) {s : Session Note}
  {c : Http.Connection Server} {sent steps : List Model.Step}

include bare

/-- A batch is dispatched in one request, and every write in it is reported as the store took
it. -/
theorem run_dispatch (h : s.HasSent c sent)
    (few : steps.length ≤ c.client.store.config.maxActions) (hsteps : steps ≠ []) :
    ∃ reports, (s.outbox.dispatch (steps.map Model.Step.pending)).run (Loopback.transport http) c =
        (.ok (.ofReports reports), ⟨{ c.client with
          store := (c.client.store.bulk (some s.outbox.index) (steps.map Model.Step.action)
            s.outbox.config.refresh).2 }, none⟩) ∧
      reports.map (·.status.isSuccess) =
        (c.client.store.applyAll (some s.outbox.index) (steps.map Model.Step.action)).1.map
          (·.outcome.isSuccess) := by
  have actions : (steps.map Model.Step.pending).map (fun p => p.intent.action) =
      steps.map Model.Step.action := by rw [List.map_map]; rfl
  have complete : ∀ a ∈ steps.map Model.Step.action, a.Complete := by
    intro a ha
    obtain ⟨step, -, rfl⟩ := List.mem_map.1 ha
    exact step.complete_action
  have carried : (steps.map Model.Step.action).map Action.carried =
      steps.map Model.Step.action := by
    rw [List.map_map]
    exact List.map_congr_left fun step _ => step.carried_action
  have answered := Loopback.transport_bulk bare c h.named complete s.outbox.config.refresh
    (by simpa using few)
  have aligned := c.client.store.length_applyAll (some s.outbox.index)
    (steps.map Model.Step.action)
  rw [carried] at answered
  rw [List.length_map] at aligned
  generalize (c.client.store.applyAll (some s.outbox.index) (steps.map Model.Step.action)).1 =
    items at answered aligned ⊢
  have noRevision : ∀ e ∈ (steps.map Model.Step.pending).zip items,
      Outbox.revision? e.1 = none := by
    intro e he
    obtain ⟨step, -, hstep⟩ := List.mem_map.1 (List.of_mem_zip he).1
    rw [← hstep]
    cases step <;> rfl
  obtain ⟨reports, settled, successes⟩ := s.outbox.settleAll_of_no_revision 0 noRevision
  refine ⟨reports, ?_, ?_⟩
  · rw [Outbox.dispatch, if_neg (by simpa using hsteps), Program.run, actions, answered]
    simp only [aligned, List.length_map, ↓reduceIte]
    rw [settled]
    rfl
  · have second : ((steps.map Model.Step.pending).zip items).map Prod.snd = items :=
      List.map_snd_zip (by simp [aligned])
    have outcomes := congrArg (List.map fun i => i.outcome.isSuccess) second
    rw [List.map_map] at outcomes
    rw [successes]
    exact outcomes

/-- A batch that is sent is answered, and the writes in it are done. -/
theorem run_send (h : s.HasSent c sent) (few : steps.length ≤ c.client.store.config.maxActions) :
    ∃ o s' c', (s.send (steps.map Model.Step.pending)).run (Loopback.transport http) c =
        ((.ok o, s'), c') ∧ s'.HasSent c' (sent ++ steps) ∧ s'.buffer = s.buffer ∧
        s'.outbox = s.outbox := by
  by_cases hsteps : steps = []
  · subst hsteps
    refine ⟨.empty, s, c, rfl, ?_, rfl, rfl⟩
    simpa using h
  · obtain ⟨reports, dispatched, successes⟩ := run_dispatch bare h few hsteps
    -- The totals grow by the numbers of items, as those of the model do by the same writes.
    obtain ⟨-, succeeded, failed⟩ := Store.holds_applyAll (Model.run sent) h.documents steps
    have run : Model.run (sent ++ steps) = steps.foldl Model.step (Model.run sent) :=
      List.foldl_append
    have applied : (BatchOutcome.ofReports reports).succeeded =
        (c.client.store.applyAll (some s.outbox.index) (steps.map Model.Step.action)).1.countP
          (·.outcome.isSuccess) := by
      have counted := congrArg (List.countP id) successes
      rw [List.countP_map, List.countP_map] at counted
      exact (BatchOutcome.succeeded_ofReports reports).trans counted
    have refused : (BatchOutcome.ofReports reports).failed =
        (c.client.store.applyAll (some s.outbox.index) (steps.map Model.Step.action)).1.countP
          (!·.outcome.isSuccess) := by
      have counted := congrArg (List.countP (!·)) successes
      rw [List.countP_map, List.countP_map] at counted
      exact (BatchOutcome.failed_ofReports reports).trans counted
    have absorbed : s.absorb (steps.map Model.Step.pending) (.ofReports reports) =
        { s with
          stats := s.stats.absorb (.ofReports reports)
          notices := s.notices ++
            s.outbox.config.notices (steps.map Model.Step.pending)
              (.ofReports reports) } := by
      rw [absorb, if_neg (by simpa using hsteps)]
    refine ⟨.ofReports reports, s.absorb (steps.map Model.Step.pending) (.ofReports reports), _,
      by rw [send, Program.run_bind, dispatched]; rfl, ?_, by rw [absorbed], by rw [absorbed]⟩
    rw [absorbed]
    refine ⟨h.codec, h.named, ?_, ?_, ?_, ?_⟩
    · rw [(c.client.store.reaches_bulk _ _ _).config]
      exact h.size
    · rw [run]
      exact Store.holds_bulk (Model.run sent) h.documents few s.outbox.config.refresh
    · rw [run, succeeded, ← h.succeeded, ← applied]
      rfl
    · rw [run, failed, ← h.failed, ← refused]
      rfl

/-! ## Sessions -/

/-- A session has sent some writes, and others, too few for a batch, wait in their order. -/
structure Follows (s : Session Note) (c : Http.Connection Server)
    (sent waiting : List Model.Step) : Prop extends s.HasSent c sent where
  buffer : s.buffer = ⟨waiting.map Model.Step.pending, false⟩
  few : waiting.length < s.outbox.config.threshold

variable {waiting : List Model.Step}

omit bare in
theorem take_eq_add (h : s.outbox.codec = Note.codec) (step : Model.Step) :
    s.take step = s.add step.pending := by
  cases step with
  | upsert id note | create id note => simp only [take, index, h]; rfl
  | delete id => rfl

/-- A write that is taken waits, or is sent with all that wait. -/
theorem run_take (h : s.Follows c sent waiting) (step : Model.Step) :
    ∃ s' c' sent' waiting', (s.take step).run (Loopback.transport http) c = ((.ok (), s'), c') ∧
      s'.Follows c' sent' waiting' ∧ sent' ++ waiting' = sent ++ waiting ++ [step] ∧
      s'.outbox = s.outbox := by
  have appended : s.buffer.append? step.pending =
      some ⟨(waiting ++ [step]).map Model.Step.pending, false⟩ := by
    rw [h.buffer, Buffer.append?, List.map_append]
    rfl
  have size := h.size
  have few := h.few
  rw [take_eq_add h.codec, add, appended]
  simp only [Buffer.size, List.length_map]
  split
  · next full =>
    have cleared : HasSent { s with buffer := ⟨[], false⟩ } c sent :=
      ⟨h.codec, h.named, h.size, h.documents, h.succeeded, h.failed⟩
    have enough : (waiting ++ [step]).length ≤ c.client.store.config.maxActions := by
      rw [List.length_append, List.length_singleton]
      omega
    obtain ⟨o, s', c', sending, followed, buffer, outbox⟩ := run_send bare cleared enough
    refine ⟨s', c', sent ++ (waiting ++ [step]), [], ?_, ⟨followed, buffer, ?_⟩,
      by rw [List.append_nil, List.append_assoc], outbox⟩
    · rw [Program.run_bind, flush]
      simp only [Buffer.take]
      rw [sending]
      rfl
    · rw [outbox]
      exact Nat.zero_lt_of_lt few
  · next notFull =>
    refine ⟨_, _, sent, waiting ++ [step], rfl, ⟨⟨h.codec, h.named, h.size, h.documents,
      h.succeeded, h.failed⟩, rfl, ?_⟩, by rw [List.append_assoc], rfl⟩
    simpa using notFull

/-- A session that is closed has sent all that waited. -/
theorem run_close (h : s.Follows c sent waiting) :
    ∃ s' c', s.close.run (Loopback.transport http) c = ((.ok s'.stats, s'), c') ∧
      s'.HasSent c' (sent ++ waiting) ∧ s'.outbox = s.outbox := by
  have cleared : HasSent { s with buffer := ⟨[], true⟩ } c sent :=
    ⟨h.codec, h.named, h.size, h.documents, h.succeeded, h.failed⟩
  have size := h.size
  have few := h.few
  obtain ⟨o, s', c', sending, followed, -, outbox⟩ := run_send bare cleared
    (show waiting.length ≤ _ by omega)
  refine ⟨s', c', ?_, followed, outbox⟩
  rw [close, h.buffer, if_neg Bool.false_ne_true, Program.run_bind]
  simp only [Buffer.close]
  rw [sending]
  rfl

theorem run_play (h : s.Follows c sent waiting) (steps : List Model.Step) :
    ∃ s' c', (s.play steps).run (Loopback.transport http) c = ((.ok s'.stats, s'), c') ∧
      s'.HasSent c' (sent ++ waiting ++ steps) ∧ s'.outbox = s.outbox := by
  induction steps generalizing s c sent waiting with
  | nil =>
    rw [play, List.append_nil]
    exact run_close bare h
  | cons step steps ih =>
    -- Wherever the cut between what was sent and what waits is now, both together are the writes.
    obtain ⟨s₁, c₁, sent₁, waiting₁, taken, followed, split, outbox⟩ := run_take bare h step
    obtain ⟨s', c', played, done, outbox'⟩ := ih followed
    refine ⟨s', c', ?_, ?_, outbox'.trans outbox⟩
    · rw [play, Program.run_bind, taken]
      exact played
    · rw [split, List.append_assoc, List.singleton_append] at done
      exact done

omit bare in
/-- The documents of an index, read as notes. -/
private theorem notes_of_holds {s : Store} {name : String} {documents : Table Note}
    (h : s.Holds name documents) :
    (s.indexOrEmpty name).live.toList.map (fun e => (e.1, Note.codec.decode e.2.source.write)) =
      documents.toList.map fun e => (e.1, .ok e.2) := by
  have decoded := congrArg (List.map fun e => (e.1, Note.codec.decode e.2.write)) h
  rw [List.map_map, List.map_map] at decoded
  have notes : ((fun e => (e.1, Note.codec.decode e.2.write)) ∘
      fun e : String × Note => (e.1, e.2.value)) = fun e => (e.1, .ok e.2) := by
    funext e
    simp only [Function.comp_apply, e.2.decode_value]
  rw [notes] at decoded
  exact decoded

/-- Writes that are added in order to a session on an index without documents, for any size of
its batches that the store takes, meet no failure until it is closed, and at the end the totals of
the session and the documents of the index are those of the model. -/
theorem play_refines_model {index : String} {config : SessionConfig} (named : index ≠ "")
    (positive : 1 ≤ config.batchSize) (few : config.batchSize ≤ c.client.store.config.maxActions)
    (vacant : (c.client.store.indexOrEmpty index).live = .empty) (steps : List Model.Step) :
    ∃ stats s' c',
      ((start ⟨Note.codec, index, config⟩).play steps).run (Loopback.transport http) c =
        ((.ok stats, s'), c') ∧
      stats.succeeded = (Model.run steps).succeeded ∧ stats.failed = (Model.run steps).failed ∧
      (c'.client.store.indexOrEmpty index).live.toList.map
          (fun e => (e.1, Note.codec.decode e.2.source.write)) =
        (Model.run steps).documents.toList.map fun e => (e.1, .ok e.2) := by
  have begun : Follows (start ⟨Note.codec, index, config⟩) c [] [] := by
    refine ⟨⟨rfl, named, ?_, ?_, rfl, rfl⟩, rfl, ?_⟩
    · simp only [start, SessionConfig.threshold]
      omega
    · simp only [start, Store.Holds, vacant]
      rfl
    · simp only [start, SessionConfig.threshold, List.length_nil]
      omega
  obtain ⟨s', c', played, done, outbox⟩ := run_play bare begun steps
  have documents := done.documents
  rw [outbox] at documents
  exact ⟨s'.stats, s', c', played, done.succeeded, done.failed, notes_of_holds documents⟩

/-- Two creates of one note and a delete of another. -/
def collision : List Model.Step :=
  [.create "a" ⟨"first", 1⟩, .create "a" ⟨"second", 2⟩, .delete "b"]

omit bare in
/-- In batches of two, the second create fails in the batch of the first, the delete in the next
one. -/
theorem play_collision :
    Loopback.Bare Fixture.httpConfig.base ∧ ("notes" ≠ "" ∧ 1 ≤ 2 ∧ 2 ≤ (10000 : Nat)) ∧
      ((Fixture.start {}).client.store.indexOrEmpty "notes").live = .empty ∧
      ∃ stats s' c',
        ((start ⟨Note.codec, "notes", { batchSize := 2 }⟩).play collision).run
          Fixture.transport (Fixture.start {}) = ((.ok stats, s'), c') ∧
        stats.succeeded = 1 ∧ stats.failed = 2 ∧
        (c'.client.store.indexOrEmpty "notes").live.toList.map
          (fun e => (e.1, Note.codec.decode e.2.source.write)) = [("a", .ok ⟨"first", 1⟩)] := by
  have bare : Loopback.Bare Fixture.httpConfig.base :=
    ⟨"docbulk.test:9200".toList, by decide +kernel, by decide⟩
  exact ⟨bare, by decide, rfl,
    play_refines_model bare (by decide) (by decide) (by decide) rfl collision⟩

end Session

end VersionedStore
