import VersionedStore.Proofs.Client.Crew
import VersionedStore.Proofs.Client.Intake

/-!
# Deliveries

Whatever a session does, what it makes of a transport is a sequence of batches that are sent one
after another, each in one bulk request with the updates that are made again behind it. A batch that
was sent, with the reply to its request and with what came of it, is a delivery. The totals of a
session and what was heard of it are those of its deliveries.

## Main definitions

* `Outbox.sendAll` — batches are sent in order
* `Delivery`, `Outbox.deliveries` — batches with their replies and their results
* `Outbox.conversation` — all that was exchanged about a batch
* `Outbox.Sends` — a session has sent some batches, and nothing else
* `Session.callAll` — calls on a session in order

## Main results

* `Outbox.Sends.concat` — one more batch
* `Outbox.Sends.call` — what a call on a session sends
* `Intake.sends_run` — what a queued session at work sends
* `Crew.sends_step` — what producers on one session send
-/

namespace VersionedStore

variable {α β σ : Type}

/-! ## Exchanges -/

/-- Whether it is about a bulk request. -/
def Exchange.isBulk (e : Exchange) : Bool := e.1.bulk?.isSome

/-- A program without bulk requests exchanges none. -/
theorem Program.filter_exchanges_of_bulks (t : Transport σ) (x : σ) {p : Program α}
    (h : p.bulks t x = []) : (p.exchanges t x).filter Exchange.isBulk = [] := by
  rw [bulks, calls_eq_map_exchanges, List.filterMap_map, List.filterMap_eq_nil_iff] at h
  rw [List.filter_eq_nil_iff]
  intro e he
  rw [Exchange.isBulk, show e.1.bulk? = none from h e he]
  exact Bool.false_ne_true

/-! ## Deliveries -/

/-- A batch that was sent, with the reply to its request and with what came of it. -/
structure Delivery (α : Type) where
  batch : List (Pending α)
  reply : Except ClientError (List Wire.Item)
  /-- What was exchanged after the reply. -/
  behind : List Exchange
  result : Except ClientError BatchOutcome

namespace Delivery

/-- What a session lets hear of a batch. -/
def notices (config : SessionConfig) (d : Delivery α) : List Notice :=
  match d.result with
  | .ok o => config.notices d.batch o
  | .error _ => []

/-- The outcomes of the batches that were answered. -/
def outcomes (ds : List (Delivery α)) : List BatchOutcome :=
  ds.filterMap fun d => d.result.toOption

theorem outcomes_append (ds ds' : List (Delivery α)) :
    outcomes (ds ++ ds') = outcomes ds ++ outcomes ds' := List.filterMap_append

theorem outcomes_ok {d : Delivery α} {o : BatchOutcome} (h : d.result = .ok o) :
    outcomes [d] = [o] := by
  simp [outcomes, h, Except.toOption]

theorem outcomes_error {d : Delivery α} {e : ClientError} (h : d.result = .error e) :
    outcomes [d] = [] := by
  simp [outcomes, h, Except.toOption]

end Delivery

namespace Outbox

variable (b : Outbox α)

/-- Sends batches in order, whatever becomes of each of them. -/
def sendAll : List (List (Pending α)) → Program (List (Except ClientError BatchOutcome))
  | [] => .done []
  | batch :: rest =>
    (b.dispatch batch).bind fun r => (sendAll rest).bind fun rs => .done (r :: rs)

/-- The exchange about a batch. -/
def exchange (d : Delivery α) : Exchange :=
  ⟨.bulk b.index (d.batch.map fun p => p.intent.action) b.config.refresh, d.reply⟩

/-- All that was exchanged about a batch. -/
def conversation (d : Delivery α) : List Exchange := b.exchange d :: d.behind

variable (t : Transport σ) (x : σ)

/-- What the sending of a batch makes of it. -/
def delivery (batch : List (Pending α)) : Delivery α where
  batch
  reply := (t (.bulk b.index (batch.map fun p => p.intent.action) b.config.refresh) x).1
  behind := ((b.dispatch batch).exchanges t x).tail
  result := ((b.dispatch batch).run t x).1

/-- What the sending of batches makes of them. -/
def deliveries : List (List (Pending α)) → σ → List (Delivery α)
  | [], _ => []
  | batch :: rest, x => b.delivery t x batch :: deliveries rest ((b.dispatch batch).run t x).2

theorem sendAll_append (bs bs' : List (List (Pending α))) :
    b.sendAll (bs ++ bs') = (b.sendAll bs).bind fun rs => (b.sendAll bs').bind fun rs' =>
      .done (rs ++ rs') := by
  induction bs with
  | nil => exact (Program.bind_done _).symm
  | cons batch bs ih =>
    rw [List.cons_append, sendAll, ih, sendAll]
    simp only [Program.bind_assoc, Program.bind, List.cons_append]

/-- Of the batches themselves, in order. -/
theorem map_batch_deliveries (bs : List (List (Pending α))) :
    (b.deliveries t bs x).map Delivery.batch = bs := by
  induction bs generalizing x with
  | nil => rfl
  | cons batch bs ih => rw [deliveries, List.map_cons, ih]; rfl

theorem run_sendAll_append (bs bs' : List (List (Pending α))) :
    ((b.sendAll (bs ++ bs')).run t x).2 =
      ((b.sendAll bs').run t ((b.sendAll bs).run t x).2).2 := by
  rw [sendAll_append, Program.run_bind, Program.run_bind]
  rfl

theorem exchanges_sendAll_append (bs bs' : List (List (Pending α))) :
    (b.sendAll (bs ++ bs')).exchanges t x = (b.sendAll bs).exchanges t x ++
      (b.sendAll bs').exchanges t ((b.sendAll bs).run t x).2 := by
  rw [sendAll_append, Program.exchanges_bind, Program.exchanges_bind, Program.exchanges_done,
    List.append_nil]

theorem deliveries_append (bs bs' : List (List (Pending α))) :
    b.deliveries t (bs ++ bs') x = b.deliveries t bs x ++
      b.deliveries t bs' ((b.sendAll bs).run t x).2 := by
  induction bs generalizing x with
  | nil => rfl
  | cons batch bs ih =>
    rw [List.cons_append, deliveries, deliveries, ih, sendAll, Program.run_bind, Program.run_bind]
    rfl

theorem run_sendAll_single (batch : List (Pending α)) :
    ((b.sendAll [batch]).run t x).2 = ((b.dispatch batch).run t x).2 := by
  rw [sendAll, Program.run_bind]
  rfl

theorem exchanges_sendAll_single (batch : List (Pending α)) :
    (b.sendAll [batch]).exchanges t x = (b.dispatch batch).exchanges t x := by
  rw [sendAll, Program.exchanges_bind]
  exact List.append_nil _

/-- The bulk request of a batch comes first. -/
theorem exchanges_dispatch {batch : List (Pending α)} (some : batch ≠ []) :
    (b.dispatch batch).exchanges t x = b.conversation (b.delivery t x batch) := by
  rw [conversation, delivery, dispatch, if_neg (by simpa using some), Program.exchanges]
  rfl

/-- Behind the bulk request of a batch there are only updates. -/
theorem filter_behind_delivery {batch : List (Pending α)} (some : batch ≠ []) :
    (b.delivery t x batch).behind.filter Exchange.isBulk = [] := by
  rw [delivery, dispatch, if_neg (by simpa using some), Program.exchanges, List.tail_cons]
  refine Program.filter_exchanges_of_bulks _ _ ?_
  split
  · rfl
  · split
    · rw [Program.bulks_bind, bulks_settleAll]
      rfl
    · rfl

theorem exchanges_sendAll {bs : List (List (Pending α))} (some : ∀ batch ∈ bs, batch ≠ []) :
    (b.sendAll bs).exchanges t x = (b.deliveries t bs x).flatMap b.conversation := by
  induction bs generalizing x with
  | nil => rfl
  | cons batch bs ih =>
    obtain ⟨first, rest⟩ := List.forall_mem_cons.1 some
    rw [sendAll, Program.exchanges_bind, Program.exchanges_bind, Program.exchanges_done,
      List.append_nil, exchanges_dispatch b t x first, ih _ rest]
    rfl

/-- The bulk requests of batches are the only ones of their sending. -/
theorem filter_exchanges_sendAll {bs : List (List (Pending α))} (some : ∀ batch ∈ bs, batch ≠ []) :
    ((b.sendAll bs).exchanges t x).filter Exchange.isBulk =
      (b.deliveries t bs x).map b.exchange := by
  induction bs generalizing x with
  | nil => rfl
  | cons batch bs ih =>
    obtain ⟨first, rest⟩ := List.forall_mem_cons.1 some
    rw [sendAll, Program.exchanges_bind, Program.exchanges_bind, Program.exchanges_done,
      List.append_nil, List.filter_append, exchanges_dispatch b t x first, ih _ rest, conversation,
      List.filter_cons_of_pos (by rfl), filter_behind_delivery b t x first]
    rfl

/-- A session has sent batches, none of them without items, and has exchanged nothing else; its
totals are those of the batches that were answered, and what was heard is what was heard of
them. -/
structure Sends (bs : List (List (Pending α))) (log : List Exchange) (x' : σ) (stats : Stats)
    (notices : List Notice) : Prop where
  some : ∀ batch ∈ bs, batch ≠ []
  log : log = (b.sendAll bs).exchanges t x
  state : x' = ((b.sendAll bs).run t x).2
  stats : stats = (Delivery.outcomes (b.deliveries t bs x)).foldl Stats.absorb {}
  notices : notices = (b.deliveries t bs x).flatMap (Delivery.notices b.config)

variable {b t x} {bs : List (List (Pending α))} {log : List Exchange} {x' : σ} {stats : Stats}
  {notices : List Notice}

theorem sends_nil : b.Sends t x [] [] x {} [] := ⟨nofun, rfl, rfl, rfl, rfl⟩

/-- One more batch that is sent. -/
theorem Sends.concat (h : b.Sends t x bs log x' stats notices) {batch : List (Pending α)}
    (some : batch ≠ []) :
    b.Sends t x (bs ++ [batch]) (log ++ (b.dispatch batch).exchanges t x')
      ((b.dispatch batch).run t x').2
      ((Delivery.outcomes [b.delivery t x' batch]).foldl Stats.absorb stats)
      (notices ++ (b.delivery t x' batch).notices b.config) where
  some := List.forall_mem_append.2 ⟨h.some, List.forall_mem_singleton.2 some⟩
  log := by rw [exchanges_sendAll_append, exchanges_sendAll_single, ← h.log, ← h.state]
  state := by rw [run_sendAll_append, run_sendAll_single, ← h.state]
  stats := by
    rw [deliveries_append, Delivery.outcomes_append, List.foldl_append, ← h.stats, ← h.state]
    rfl
  notices := by
    rw [deliveries_append, List.flatMap_append, ← h.notices, ← h.state]
    exact congrArg _ (List.flatMap_singleton ..).symm

end Outbox

/-! ## Sessions -/

namespace Session

/-- A call on a session. -/
def call (s : Session α) : SharedCall α → Program (SharedResult × Session α)
  | .add p => (s.add p).bind fun r => .done (.added r.1, r.2)
  | .flush => s.flush.bind fun r => .done (.flushed r.1, r.2)
  | .close => s.close.bind fun r => .done (.closed r.1, r.2)

/-- Calls on a session in order; a failure of one of them does not keep the others from being
made. -/
def callAll (s : Session α) : List (SharedCall α) → Program (List SharedResult × Session α)
  | [] => .done ([], s)
  | c :: cs => (s.call c).bind fun r => (r.2.callAll cs).bind fun rs => .done (r.1 :: rs.1, rs.2)

/-- Whether an item that is added now makes a batch. -/
def fills (s : Session α) : Prop := s.outbox.config.threshold ≤ s.buffer.items.length + 1

instance (s : Session α) : Decidable s.fills := inferInstanceAs (Decidable (_ ≤ _))

/-- The items that a call sends. -/
def batchOf (s : Session α) : SharedCall α → List (Pending α)
  | .add p =>
    if s.buffer.isSealed then [] else if s.fills then s.buffer.items ++ [p] else []
  | .flush => s.buffer.items
  | .close => if s.buffer.isSealed then [] else s.buffer.items

/-- What waits when a call has taken the items that it sends. -/
def bufferAfter (s : Session α) : SharedCall α → Buffer (Pending α)
  | .add p =>
    if s.buffer.isSealed then s.buffer else ⟨if s.fills then [] else s.buffer.items ++ [p], false⟩
  | .flush => ⟨[], s.buffer.isSealed⟩
  | .close => if s.buffer.isSealed then s.buffer else ⟨[], true⟩

/-- What a call returns after it has sent its items. -/
def resultOf (s : Session α) (c : SharedCall α)
    (sent : Except ClientError BatchOutcome × Session α) : SharedResult :=
  match c with
  | .add _ =>
    .added (if s.buffer.isSealed then .error .sessionClosed else sent.1.map fun _ => ())
  | .flush => .flushed sent.1
  | .close => .closed (sent.1.map fun _ => sent.2.stats)

variable (s : Session α)

theorem send_nil : s.send [] = .done (.ok .empty, s) := rfl

/-- A call takes some items out of the buffer, possibly none, and sends them. -/
theorem call_eq (c : SharedCall α) : s.call c =
    ({ s with buffer := s.bufferAfter c }.send (s.batchOf c)).bind fun r =>
      .done (s.resultOf c r, r.2) := by
  obtain ⟨outbox, ⟨items, isSealed⟩, stats, notices⟩ := s
  cases c with
  | add p =>
    cases isSealed with
    | true => rfl
    | false =>
      have length : (items ++ [p]).length = items.length + 1 := List.length_append
      simp only [call, add, Buffer.append?, Bool.false_eq_true, if_false, Buffer.size, length,
        bufferAfter, batchOf, fills, resultOf]
      by_cases full : outbox.config.threshold ≤ items.length + 1
      · simp only [full, if_true, flush, Program.bind_assoc]
        rfl
      · simp only [full, if_false]
        rfl
  | flush => rfl
  | close =>
    cases isSealed with
    | true => rfl
    | false =>
      simp only [call, close, Bool.false_eq_true, if_false, Program.bind_assoc]
      rfl

section Send

variable (t : Transport σ) (x : σ) {batch : List (Pending α)}

theorem exchanges_send (batch : List (Pending α)) :
    (s.send batch).exchanges t x = (s.outbox.dispatch batch).exchanges t x := by
  rw [send, Program.exchanges_bind]
  split <;> exact List.append_nil _

/-- What the sending of some items does. -/
theorem run_send_of_ne_nil (some : batch ≠ []) : (s.send batch).run t x =
    (((s.outbox.delivery t x batch).result,
      { s with
        stats := (Delivery.outcomes [s.outbox.delivery t x batch]).foldl Stats.absorb s.stats
        notices := s.notices ++ (s.outbox.delivery t x batch).notices s.outbox.config }),
      ((s.outbox.dispatch batch).run t x).2) := by
  rw [send, Program.run_bind]
  generalize hd : s.outbox.delivery t x batch = d
  have batch' : d.batch = batch := hd ▸ rfl
  have result : d.result = ((s.outbox.dispatch batch).run t x).1 := hd ▸ rfl
  rw [← result]
  cases answer : d.result with
  | error e =>
    rw [Delivery.outcomes_error answer]
    simp only [Delivery.notices, answer, List.append_nil]
    rfl
  | ok o =>
    rw [Delivery.outcomes_ok answer]
    simp only [Delivery.notices, answer, batch', Program.run, absorb]
    rw [if_neg (by simpa using some)]
    rfl

end Send

end Session

namespace Outbox

variable {t : Transport σ} {x x' : σ} {bs : List (List (Pending α))} {log : List Exchange}

/-- The batch of some items. -/
def asBatch (items : List (Pending α)) : List (List (Pending α)) :=
  if items.isEmpty then [] else [items]

theorem asBatch_of_ne_nil {items : List (Pending α)} (some : items ≠ []) :
    asBatch items = [items] := if_neg (by simpa using some)

/-- A session that sends items, possibly none. -/
theorem Sends.send {s : Session α} (h : s.outbox.Sends t x bs log x' s.stats s.notices)
    (items : List (Pending α)) :
    s.outbox.Sends t x (bs ++ asBatch items) (log ++ (s.send items).exchanges t x')
      ((s.send items).run t x').2 ((s.send items).run t x').1.2.stats
      ((s.send items).run t x').1.2.notices := by
  by_cases none : items = []
  · subst none
    have same : bs ++ asBatch [] = bs := List.append_nil _
    rw [s.send_nil, Program.exchanges_done, List.append_nil, same]
    exact h
  · rw [asBatch_of_ne_nil none, s.run_send_of_ne_nil t x' none, s.exchanges_send]
    exact h.concat none

/-- A call on a session sends the items that it takes. -/
theorem Sends.call {s : Session α} (h : s.outbox.Sends t x bs log x' s.stats s.notices)
    (c : SharedCall α) :
    s.outbox.Sends t x (bs ++ asBatch (s.batchOf c)) (log ++ (s.call c).exchanges t x')
      ((s.call c).run t x').2 ((s.call c).run t x').1.2.stats
      ((s.call c).run t x').1.2.notices := by
  rw [s.call_eq, Program.exchanges_bind, Program.run_bind]
  simp only [Program.exchanges_done, List.append_nil, Program.run]
  exact Sends.send (s := { s with buffer := s.bufferAfter c }) h (s.batchOf c)

end Outbox

/-! ## Queued sessions -/

namespace QueueSession

variable (t : Transport σ) (s : QueueSession α) (x : σ)

theorem exchanges_send :
    s.send.exchanges t x = (s.outbox.dispatch s.gathered).exchanges t x := by
  rw [send, Program.exchanges_bind]
  exact List.append_nil _

theorem state_send : (s.send.run t x).2 = ((s.outbox.dispatch s.gathered).run t x).2 := by
  rw [send, Program.run_bind]
  rfl

/-- What is counted and heard of a batch that was sent. -/
theorem sent_eq : s.sent (s.answer t x) =
    { s with
      gathered := []
      stats := (Delivery.outcomes [s.outbox.delivery t x s.gathered]).foldl Stats.absorb s.stats
      failure := (s.sent (s.answer t x)).failure
      notices :=
        s.notices ++ (s.outbox.delivery t x s.gathered).notices s.outbox.config } := by
  generalize hd : s.outbox.delivery t x s.gathered = d
  have batch : d.batch = s.gathered := hd ▸ rfl
  have result : d.result = s.answer t x := hd ▸ rfl
  rw [← result]
  cases answer : d.result with
  | error e =>
    rw [Delivery.outcomes_error answer]
    simp only [Delivery.notices, answer, List.append_nil]
    rfl
  | ok o =>
    rw [Delivery.outcomes_ok answer]
    simp only [Delivery.notices, answer, batch]
    rfl

/-- What a step of the consumer exchanges, and where it leaves the transport. -/
theorem consume_exchanges (stage : ConsumerStage) {next : Program (ConsumerStage × QueueSession α)}
    (h : s.consume stage = some next) :
    (next.exchanges t x = if s.sends stage then (s.outbox.dispatch s.gathered).exchanges t x
        else []) ∧
      (next.run t x).2 =
        if s.sends stage then ((s.outbox.dispatch s.gathered).run t x).2 else x := by
  cases stage with
  | ended => cases h
  | receiving =>
    by_cases full : s.outbox.config.threshold ≤ s.gathered.length
    · rw [consume, if_pos full] at h
      obtain rfl := Option.some.inj h
      rw [sends, decide_eq_true full, if_pos rfl, if_pos rfl, Program.exchanges_bind,
        Program.run_bind, exchanges_send]
      exact ⟨List.append_nil _, state_send t s x⟩
    · rw [consume, if_neg full] at h
      rw [sends, decide_eq_false full, if_neg Bool.false_ne_true, if_neg Bool.false_ne_true]
      split at h
      · obtain rfl := Option.some.inj h
        exact ⟨rfl, rfl⟩
      · obtain rfl := Option.some.inj h
        exact ⟨rfl, rfl⟩
      · split at h
        · obtain rfl := Option.some.inj h
          exact ⟨rfl, rfl⟩
        · cases h
  | finishing =>
    obtain rfl := Option.some.inj h
    rw [sends, finish]
    cases empty : s.gathered.isEmpty with
    | true => exact ⟨rfl, rfl⟩
    | false =>
      simp only [Bool.false_eq_true, if_false, Bool.not_false, if_true, Program.exchanges_bind,
        Program.run_bind, exchanges_send]
      exact ⟨List.append_nil _, state_send t s x⟩

/-- What is sent is not empty. -/
theorem gathered_ne_nil {stage : ConsumerStage} (h : s.sends stage = true) : s.gathered ≠ [] := by
  rintro empty
  cases stage with
  | ended => cases h
  | receiving =>
    rw [sends, empty, decide_eq_true_iff] at h
    exact absurd h (Nat.not_le_of_lt s.outbox.config.threshold_pos)
  | finishing => simp [sends, empty] at h

end QueueSession

namespace Intake

variable {t : Transport σ} {x x' : σ} {bs : List (List (Pending α))} {log : List Exchange}
  {w : Intake α}

/-- The consumer sends the batch that is gathered, and no one else sends anything. -/
theorem sends_step
    (h : w.session.outbox.Sends t x bs log x' w.session.stats w.session.notices) (a : Actor) :
    w.session.outbox.Sends t x (bs ++ batches (w.events t x' a))
      (log ++ (w.step a).exchanges t x') ((w.step a).run t x').2
      ((w.step a).run t x').1.session.stats ((w.step a).run t x').1.session.notices := by
  cases a with
  | feeder i =>
    have none : batches (w.events t x' (.feeder i)) = [] := by
      rw [events]
      split
      · rfl
      · next f _ => cases f.accepted? w.session <;> rfl
    rw [none, List.append_nil, step]
    split
    · simpa [Program.run] using h
    · next f' s' moved =>
      obtain ⟨f, -, stepped⟩ := Option.bind_eq_some_iff.1 moved
      have cases := f.step_cases w.session
      rw [stepped] at cases
      rw [Program.exchanges_done, List.append_nil]
      obtain ⟨-, rfl⟩ | ⟨p, -, -, rfl⟩ := cases.session <;> exact h
  | consumer =>
    have cases := w.session.consume_cases t w.consumer x'
    rw [step, events]
    cases goesOn : w.session.consume w.consumer with
    | none =>
      rw [goesOn] at cases
      rw [cases]
      simpa [Program.run, batches] using h
    | some next =>
      rw [goesOn] at cases
      obtain ⟨exchanged, left⟩ := w.session.consume_exchanges t x' w.consumer goesOn
      obtain ⟨did, -⟩ := cases
      rw [Program.exchanges_bind, Program.run_bind, exchanged, left]
      simp only [Program.exchanges_done, List.append_nil, Program.run]
      cases sends : w.session.sends w.consumer with
      | true =>
        rw [sends, if_pos rfl] at did
        have after : ((next.run t x').1.2).stats = (w.session.sent (w.session.answer t x')).stats ∧
            ((next.run t x').1.2).notices =
              (w.session.sent (w.session.answer t x')).notices := by
          generalize (next.run t x').1 = r at did
          obtain ⟨stage, s'⟩ := r
          generalize hc : w.consumer = consumer at did
          cases did <;> exact ⟨rfl, rfl⟩
        simp only [if_true, batches_sent]
        rw [after.1, after.2, w.session.sent_eq t x']
        exact h.concat (w.session.gathered_ne_nil sends)
      | false =>
        rw [sends, if_neg Bool.false_ne_true] at did
        have after : ((next.run t x').1.2).stats = w.session.stats ∧
            ((next.run t x').1.2).notices = w.session.notices := by
          generalize (next.run t x').1 = r at did
          obtain ⟨stage, s'⟩ := r
          generalize hc : w.consumer = consumer at did
          cases did <;> exact ⟨rfl, rfl⟩
        rw [after.1, after.2]
        simpa [batches] using h
  | closer =>
    have none : batches (w.events t x' .closer) = [] := rfl
    rw [none, List.append_nil, step]
    split
    · simpa [Program.run] using h
    · next stage s' moved =>
      rw [Program.exchanges_done, List.append_nil]
      have shuts := QueueSession.shut_cases moved
      generalize w.closing = closing at shuts
      cases shuts <;> exact h

/-- What a queued session has sent after a schedule, and all that it has exchanged. -/
theorem sends_run (h : w.session.outbox.Sends t x bs log x' w.session.stats w.session.notices)
    (schedule : List Actor) :
    w.session.outbox.Sends t x (bs ++ batches (w.history t schedule x'))
      (log ++ (w.run schedule).exchanges t x') (w.after t schedule x').2
      (w.after t schedule x').1.session.stats (w.after t schedule x').1.session.notices := by
  induction schedule generalizing w x' bs log with
  | nil => simpa [history, batches, run, after, Program.run] using h
  | cons a rest ih =>
    have step := sends_step h a
    rw [← outbox_step t x' w a] at step
    have goesOn := ih step
    rw [outbox_step] at goesOn
    rw [history, batches_append, ← List.append_assoc, run, Program.exchanges_bind,
      ← List.append_assoc, after_cons]
    exact goesOn

end Intake

/-! ## Sessions shared by producers -/

section Shared

variable {t : Transport σ} {x x' : σ} {bs : List (List (Pending α))} {log : List Exchange}

/-- A step of a call sends the batch in its hands, if that has items, and nothing else. -/
theorem Shared.sends_step {s : Shared α} {i : Nat} {st : Stage α}
    {next : Program (Stage α × Shared α)}
    (h : s.session.outbox.Sends t x bs log x' s.session.stats s.session.notices)
    (goesOn : s.step i st = some next) :
    s.session.outbox.Sends t x (bs ++ (batches (s.events st)).flatMap Outbox.asBatch)
      (log ++ next.exchanges t x') (next.run t x').2 (next.run t x').1.2.session.stats
      (next.run t x').1.2.session.notices := by
  -- A step makes no calls and counts nothing, unless it sends a batch.
  have silent {p : Stage α × Shared α} (done : .done p = next) (none : batches (s.events st) = [])
      (stats : p.2.session.stats = s.session.stats)
      (notices : p.2.session.notices = s.session.notices) :
      s.session.outbox.Sends t x (bs ++ (batches (s.events st)).flatMap Outbox.asBatch)
        (log ++ next.exchanges t x') (next.run t x').2 (next.run t x').1.2.session.stats
        (next.run t x').1.2.session.notices := by
    subst done
    simp only [none, List.flatMap_nil, List.append_nil, Program.exchanges_done, Program.run, stats,
      notices]
    exact h
  have waited {q : Stage α} (wants : st.locked? = some q) (acquired : s.acquire? i q = some next)
      (none : batches (s.events st) = []) :
      s.session.outbox.Sends t x (bs ++ (batches (s.events st)).flatMap Outbox.asBatch)
        (log ++ next.exchanges t x') (next.run t x').2 (next.run t x').1.2.session.stats
        (next.run t x').1.2.session.notices := by
    rw [acquire?] at acquired
    split at acquired
    · exact silent (Option.some.inj acquired) none rfl rfl
    · cases acquired
  cases st with
  | calling c =>
    cases c with
    | add p =>
      have none := ((s.step_append i p).of_free rfl).1
      refine silent (Option.some.inj goesOn) none ?_ ?_
      all_goals
        rw [append]
        split <;> rfl
    | flush | close => exact waited rfl goesOn rfl
  | crossing => exact waited rfl goesOn rfl
  | checking | taking | leaving => exact silent (Option.some.inj goesOn) rfl rfl rfl
  | sealing =>
    refine silent (Option.some.inj goesOn) rfl ?_ ?_
    all_goals
      rw [sealBuffer]
      split <;> rfl
  | sending purpose batch =>
    obtain rfl := Option.some.inj goesOn
    rw [Program.exchanges_bind, Program.run_bind]
    simpa [events, batches, Event.batch?, Program.run] using h.send batch
  | returned => cases goesOn

/-- A step of a producer sends the batch in its hands, if that has items, and no one else sends
anything. -/
theorem Crew.sends_step {c : Crew α}
    (h : c.shared.session.outbox.Sends t x bs log x' c.shared.session.stats
      c.shared.session.notices) (i : Nat) :
    c.shared.session.outbox.Sends t x
      (bs ++ (Shared.batches (c.events i)).flatMap Outbox.asBatch)
      (log ++ (c.step i).exchanges t x') ((c.step i).run t x').2
      ((c.step i).run t x').1.shared.session.stats
      ((c.step i).run t x').1.shared.session.notices := by
  obtain ⟨idle, none⟩ | ⟨q, st, next, -, -, goesOn, events, steps⟩ := c.step_cases i
  · rw [idle, none]
    simpa [Shared.batches, Program.run] using h
  · rw [steps, events, Program.exchanges_bind, Program.run_bind, Program.exchanges_done,
      List.append_nil]
    exact Shared.sends_step h goesOn

end Shared

end VersionedStore
