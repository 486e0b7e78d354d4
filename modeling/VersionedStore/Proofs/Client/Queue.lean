import VersionedStore.Client.Intake
import VersionedStore.Proofs.Client.Requests

/-!
# The steps of a queued session

What a producer, the consumer and the close of a queued session can do in one step, said once. The
consumer that is left alone does what the session does in one go: it takes all commands and sends
what is left.

## Main definitions

* `Feeder.Step`, `QueueSession.Consumes`, `QueueSession.Shuts` — what a step does
* `Feeder.accepted?` — the item that a step of a producer puts into the queue
* `QueueSession.batch?` — the batch that a step of the consumer sends

## Main results

* `Feeder.step_cases`, `QueueSession.consume_cases`, `QueueSession.shut_cases` — a step is one of
  these
* `Intake.run_consumer` — the consumer left alone drains the queue and finishes
-/

namespace VersionedStore

variable {α σ : Type}

/-! ## Producers -/

namespace Feeder

/-- The item that the next step of a producer puts into the queue. -/
def accepted? (s : QueueSession α) (f : Feeder α) : Option (Pending α) :=
  if s.refuses then none else if s.queue.length < s.capacity then f.offered else none

/-- What a step of a producer does to it and to the session, and which item is put into the
queue. -/
inductive Step (s : QueueSession α) :
    Feeder α → Option (Pending α) → Feeder α → QueueSession α → Prop
  | decline (p : Pending α) (rest : List (Pending α)) (results : List (Except ClientError Unit)) :
      Step s ⟨none, p :: rest, results⟩ none
        ⟨none, rest, results ++ [.error .sessionClosed]⟩ s
  | offer (p : Pending α) (rest : List (Pending α)) (results : List (Except ClientError Unit)) :
      Step s ⟨none, p :: rest, results⟩ none ⟨some p, rest, results⟩ s
  | refuse (p : Pending α) (rest : List (Pending α)) (results : List (Except ClientError Unit)) :
      Step s ⟨some p, rest, results⟩ none ⟨none, rest, results ++ [.error .sessionClosed]⟩ s
  | accept (p : Pending α) (rest : List (Pending α)) (results : List (Except ClientError Unit))
      (opened : s.refuses = false) :
      Step s ⟨some p, rest, results⟩ (some p) ⟨none, rest, results ++ [.ok ()]⟩
        (s.enqueue (.item p))

/-- The adds of a producer are those that have returned, the one that has begun and those to
come. -/
def Follows (f : Feeder α) (adds : List (Pending α)) : Prop :=
  ∃ returned, adds = returned ++ f.offered.toList ++ f.todo ∧ returned.length = f.results.length

/-- A producer that waits puts nothing into the queue, and a step of it is one of these. -/
theorem step_cases (s : QueueSession α) (f : Feeder α) :
    match f.step s with
    | none => f.accepted? s = none
    | some (f', s') => Step s f (f.accepted? s) f' s' := by
  obtain ⟨offered, todo, results⟩ := f
  cases offered with
  | none =>
    have nothing : accepted? s ⟨none, todo, results⟩ = none := by
      rw [accepted?]
      split
      · rfl
      · split <;> rfl
    rw [nothing]
    cases todo with
    | nil => rfl
    | cons p rest =>
      by_cases closed : s.isClosed ∨ s.refuses
      · simp only [step, if_pos closed]
        exact .decline p rest results
      · simp only [step, if_neg closed]
        exact .offer p rest results
  | some p =>
    cases refuses : s.refuses with
    | true =>
      simp only [step, accepted?, refuses, if_true]
      exact .refuse p todo results
    | false =>
      by_cases room : s.queue.length < s.capacity
      · simp only [step, accepted?, refuses, if_pos room, Bool.false_eq_true, if_false]
        exact .accept p todo results refuses
      · simp only [step, accepted?, refuses, if_neg room, Bool.false_eq_true, if_false]

namespace Step

variable {s s' : QueueSession α} {f f' : Feeder α} {accepted : Option (Pending α)}

/-- A producer makes its adds one after the other. -/
theorem follows (h : Step s f accepted f' s') {adds : List (Pending α)} (before : f.Follows adds) :
    f'.Follows adds := by
  obtain ⟨returned, rfl, length⟩ := before
  cases h with
  | offer p rest results => exact ⟨returned, by simp, length⟩
  | decline p | refuse p | accept p =>
    refine ⟨returned ++ [p], by simp, ?_⟩
    rw [List.length_append, List.length_append, length]
    rfl

/-- An add returns without a failure just if its item is put into the queue. -/
theorem ok_iff (h : Step s f accepted f' s') (j : Nat) :
    f'.results[j]? = some (.ok ()) ↔
      f.results[j]? = some (.ok ()) ∨ (accepted.isSome ∧ j = f.results.length) := by
  have last (results : List (Except ClientError Unit)) (r : Except ClientError Unit) :
      (results ++ [r])[j]? = some (.ok ()) ↔
        results[j]? = some (.ok ()) ∨ (r = .ok () ∧ j = results.length) := by
    rw [List.getElem?_append]
    split
    · next lt => simp [Nat.ne_of_lt lt]
    · next ge =>
      have none : results[j]? = none := List.getElem?_eq_none (Nat.le_of_not_lt ge)
      rw [none, List.getElem?_singleton]
      split
      · next here => simp [show j = results.length by omega]
      · next elsewhere => simp [show j ≠ results.length by omega]
  cases h with
  | offer => simp
  | decline _ _ results | refuse _ _ results => rw [last]; simp
  | accept p rest results => rw [last]; simp

/-- What is put into the queue is the item of the add. -/
theorem item {p : Pending α} (h : Step s f (some p) f' s') {adds : List (Pending α)}
    (before : f.Follows adds) : adds[f.results.length]? = some p := by
  obtain ⟨returned, rfl, length⟩ := before
  cases h
  rw [← length]
  simp

/-- A step of a producer puts its item into the queue, or leaves the session as it is. -/
theorem session (h : Step s f accepted f' s') :
    (accepted = none ∧ s' = s) ∨
      ∃ p, accepted = some p ∧ s.refuses = false ∧ s' = s.enqueue (.item p) := by
  cases h with
  | accept p rest results opened => exact .inr ⟨p, rfl, opened, rfl⟩
  | _ => exact .inl ⟨rfl, rfl⟩

end Step

end Feeder

/-! ## The consumer -/

namespace QueueSession

/-- The session after a batch was sent. -/
def sent (s : QueueSession α) (answer : Except ClientError BatchOutcome) : QueueSession α :=
  { s with gathered := [] }.absorb s.gathered answer

/-- The answer to the batch that is gathered. -/
def answer (t : Transport σ) (s : QueueSession α) (x : σ) : Except ClientError BatchOutcome :=
  ((s.outbox.dispatch s.gathered).run t x).1

/-- Whether the next step of the consumer sends the batch that is gathered. -/
def sends (s : QueueSession α) : ConsumerStage → Bool
  | .receiving => decide (s.outbox.config.threshold ≤ s.gathered.length)
  | .finishing => !s.gathered.isEmpty
  | .ended => false

/-- What a step of the consumer does, and the answer to the batch that is sent in it. -/
inductive Consumes (s : QueueSession α) :
    ConsumerStage → Option (Except ClientError BatchOutcome) → ConsumerStage →
      QueueSession α → Prop
  /-- A full batch is sent before the next command is taken. -/
  | send (r : Except ClientError BatchOutcome)
      (full : s.outbox.config.threshold ≤ s.gathered.length) :
      Consumes s .receiving (some r) .receiving (s.sent r)
  /-- An item is put to the batch. -/
  | gather (p : Pending α) (rest : List (Command α)) (first : s.queue = .item p :: rest)
      (short : s.gathered.length < s.outbox.config.threshold) :
      Consumes s .receiving none .receiving
        { s with queue := rest, gathered := s.gathered ++ [p] }
  /-- The last command is heard; what is behind it in the queue is still taken. -/
  | hear (rest : List (Command α)) (first : s.queue = .close :: rest)
      (short : s.gathered.length < s.outbox.config.threshold) :
      Consumes s .receiving none .receiving { s with queue := rest, refuses := true }
  /-- After the last command the queue is empty. -/
  | drain (empty : s.queue = []) (refuses : s.refuses = true)
      (short : s.gathered.length < s.outbox.config.threshold) :
      Consumes s .receiving none .finishing s
  /-- No items are left over. -/
  | finish (empty : s.gathered = []) : Consumes s .finishing none .ended s
  /-- The items that are left over are sent. -/
  | sendLast (r : Except ClientError BatchOutcome) (some : s.gathered ≠ []) :
      Consumes s .finishing (.some r) .ended (s.sent r)

section Sent

variable (s : QueueSession α) (r : Except ClientError BatchOutcome)

@[simp] theorem sent_outbox : (s.sent r).outbox = s.outbox := by cases r <;> rfl

@[simp] theorem sent_queue : (s.sent r).queue = s.queue := by cases r <;> rfl

@[simp] theorem sent_refuses : (s.sent r).refuses = s.refuses := by cases r <;> rfl

@[simp] theorem sent_gathered : (s.sent r).gathered = [] := by cases r <;> rfl

end Sent

theorem Consumes.outbox {s s' : QueueSession α} {stage stage' : ConsumerStage}
    {r : Option (Except ClientError BatchOutcome)} (h : Consumes s stage r stage' s') :
    s'.outbox = s.outbox := by
  cases h with
  | send r | sendLast r => exact s.sent_outbox r
  | _ => rfl

/-- The sending of a batch. -/
theorem run_send (t : Transport σ) (s : QueueSession α) (x : σ) :
    (s.send.run t x).1 = s.sent (s.answer t x) := by
  rw [send, Program.run_bind]
  rfl

theorem bulks_send (t : Transport σ) (s : QueueSession α) (x : σ) :
    s.send.bulks t x = Pending.requests s.gathered := by
  rw [send, Program.bulks_bind, Outbox.bulks_dispatch]
  exact List.append_nil _

/-- Whatever the transport answers, a step of the consumer is one of these; its bulk request is
that of the batch. -/
theorem consume_cases (t : Transport σ) (s : QueueSession α) (stage : ConsumerStage) (x : σ) :
    match s.consume stage with
    | none => s.sends stage = false
    | some next =>
      Consumes s stage (if s.sends stage then some (s.answer t x) else none)
          (next.run t x).1.1 (next.run t x).1.2 ∧
        next.bulks t x = if s.sends stage then Pending.requests s.gathered else [] := by
  cases stage with
  | ended => rfl
  | receiving =>
    by_cases full : s.outbox.config.threshold ≤ s.gathered.length
    · simp only [consume, sends, full, if_true, decide_true, Program.run_bind, Program.bulks_bind,
        bulks_send, run_send]
      exact ⟨.send _ full, List.append_nil _⟩
    · have short := Nat.lt_of_not_le full
      simp only [consume, sends, full, if_false, decide_false, Bool.false_eq_true]
      cases queue : s.queue with
      | nil =>
        cases refuses : s.refuses with
        | true => exact ⟨.drain queue refuses short, rfl⟩
        | false => trivial
      | cons c rest =>
        cases c with
        | item p => exact ⟨.gather p rest queue short, rfl⟩
        | close => exact ⟨.hear rest queue short, rfl⟩
  | finishing =>
    cases empty : s.gathered.isEmpty with
    | true =>
      simp only [consume, sends, finish, empty, if_true, Bool.not_true, Bool.false_eq_true,
        if_false]
      exact ⟨.finish (List.isEmpty_iff.1 empty), rfl⟩
    | false =>
      have some : s.gathered ≠ [] := List.isEmpty_eq_false_iff.1 empty
      simp only [consume, sends, finish, empty, if_false, Bool.not_false, Bool.false_eq_true,
        if_true, Program.run_bind, Program.bulks_bind, bulks_send, run_send]
      exact ⟨.sendLast _ some, List.append_nil _⟩

/-! ## The close -/

/-- What a step of the close does. -/
inductive Shuts (s : QueueSession α) (consumer : ConsumerStage) :
    ClosingStage → ClosingStage → QueueSession α → Prop
  /-- From now on no add is begun. -/
  | call : Shuts s consumer .calling .telling { s with isClosed := true }
  /-- Someone else has closed the queue. -/
  | skip : Shuts s consumer .telling .joining s
  /-- The last command is put into the queue. -/
  | tell (opened : s.refuses = false) :
      Shuts s consumer .telling .joining (s.enqueue .close)
  /-- The consumer has ended. -/
  | join (ended : consumer = .ended) :
      Shuts s consumer .joining (.returned s.stats s.failure) s

theorem Shuts.outbox {s s' : QueueSession α} {consumer : ConsumerStage}
    {stage stage' : ClosingStage} (h : Shuts s consumer stage stage' s') :
    s'.outbox = s.outbox := by
  cases h <;> rfl

theorem shut_cases {s s' : QueueSession α} {consumer : ConsumerStage}
    {stage stage' : ClosingStage} (h : s.shut consumer stage = some (stage', s')) :
    Shuts s consumer stage stage' s' := by
  cases stage with
  | calling =>
    obtain ⟨rfl, rfl⟩ := Prod.mk.inj (Option.some.inj h)
    exact .call
  | telling =>
    rw [shut] at h
    split at h
    · obtain ⟨rfl, rfl⟩ := Prod.mk.inj (Option.some.inj h)
      exact .skip
    · next opened =>
      split at h
      · obtain ⟨rfl, rfl⟩ := Prod.mk.inj (Option.some.inj h)
        exact .tell (Bool.eq_false_iff.2 opened)
      · cases h
  | joining =>
    rw [shut] at h
    split at h
    · next ended =>
      obtain ⟨rfl, rfl⟩ := Prod.mk.inj (Option.some.inj h)
      exact .join ended
    · cases h
  | returned => cases h

end QueueSession

/-! ## The consumer left alone -/

namespace Intake

theorem step_consumer {w : Intake α}
    {next : Program (ConsumerStage × QueueSession α)}
    (h : w.session.consume w.consumer = some next) :
    w.step .consumer = next.bind fun r => .done { w with session := r.2, consumer := r.1 } := by
  rw [step, h]

theorem run_consumer_of_ended {w : Intake α} (ended : w.consumer = .ended) (n : Nat) :
    w.run (List.replicate n .consumer) = .done w := by
  induction n with
  | zero => rfl
  | succ n ih =>
    have idle : w.step .consumer = .done w := by rw [step, ended]; rfl
    rw [List.replicate_succ, run, idle]
    exact ih

/-- Left alone, the consumer takes all commands that are in the queue and sends what is left,
provided that the last command is among them. -/
theorem run_consumer (w : Intake α) (receiving : w.consumer = .receiving)
    (short : w.session.gathered.length < w.session.outbox.config.threshold)
    (last : w.session.refuses = true ∨ .close ∈ w.session.queue) (n : Nat)
    (enough : 2 * w.session.queue.length + 2 ≤ n) :
    w.run (List.replicate n .consumer) =
      (w.session.drain.bind QueueSession.finish).bind fun s =>
        .done { w with session := s, consumer := .ended } := by
  obtain ⟨s, feeders, consumer, closing⟩ := w
  subst receiving
  simp only at short last enough
  generalize hq : s.queue = queue at last enough
  -- A command takes one step, and a second one if it fills a batch.
  induction queue generalizing s n with
  | nil =>
    obtain ⟨m, rfl⟩ : ∃ m, n = m + 2 := ⟨n - 2, by simp at enough; omega⟩
    have refuses : s.refuses = true := by simpa using last
    have drained : s.consume .receiving = some (.done (.finishing, s)) := by
      simp only [QueueSession.consume, hq, refuses, if_true, if_neg (Nat.not_le_of_lt short)]
    have empty : { s with queue := [] } = s := by rw [← hq]
    rw [List.replicate_succ, run, step_consumer drained, List.replicate_succ]
    simp only [Program.bind, run]
    rw [step_consumer rfl, QueueSession.drain, hq, QueueSession.receiveAll, empty]
    simp only [Program.bind_assoc, Program.bind]
    congr 1
    funext s'
    exact run_consumer_of_ended rfl m
  | cons c rest ih =>
    rw [List.length_cons] at enough
    obtain ⟨m, rfl⟩ : ∃ m, n = m + 2 := ⟨n - 2, by omega⟩
    have notFull := Nat.not_le_of_lt short
    cases c with
    | close =>
      have heard : s.consume .receiving =
          some (.done (.receiving, { s with queue := rest, refuses := true })) := by
        simp only [QueueSession.consume, hq, if_neg notFull]
      rw [List.replicate_succ, run, step_consumer heard, QueueSession.drain, hq]
      exact ih (m + 1) _ short rfl (.inl rfl) (by omega)
    | item p =>
      have taken : s.consume .receiving =
          some (.done (.receiving, { s with queue := rest, gathered := s.gathered ++ [p] })) := by
        simp only [QueueSession.consume, hq, if_neg notFull]
      have stillLast : s.refuses = true ∨ .close ∈ rest := by simpa using last
      rw [List.replicate_succ, run, step_consumer taken, QueueSession.drain, hq,
        QueueSession.receiveAll, QueueSession.receive]
      simp only [Program.bind]
      split
      · -- The batch is full, and the next step sends it.
        next full =>
        have sent : ({ s with queue := rest, gathered := s.gathered ++ [p] } :
            QueueSession α).consume .receiving = some (_ : Program _) := if_pos full
        rw [List.replicate_succ, run, step_consumer sent]
        simp only [QueueSession.send, Program.bind_assoc, Program.bind]
        congr 1
        funext r
        have left := s.outbox.config.threshold_pos
        have goesOn := ih m (QueueSession.sent
          { s with queue := rest, gathered := s.gathered ++ [p] } r)
        rw [← Program.bind_assoc]
        cases r <;> exact goesOn left rfl stillLast (by omega)
      · next few => exact ih (m + 1) _ (Nat.lt_of_not_le few) rfl stillLast (by omega)

/-- A close that is not disturbed is what the session does in one go. -/
theorem run_close (w : Intake α) (calling : w.closing = .calling)
    (receiving : w.consumer = .receiving) (opened : w.session.refuses = false)
    (short : w.session.gathered.length < w.session.outbox.config.threshold)
    (room : w.session.queue.length < w.session.capacity) (n : Nat)
    (enough : 2 * w.session.queue.length + 4 ≤ n) :
    w.run (.closer :: .closer :: List.replicate n .consumer) =
      w.session.close.bind fun s =>
        .done { w with session := s, consumer := .ended, closing := .joining } := by
  obtain ⟨s, feeders, consumer, closing⟩ := w
  subst calling receiving
  simp only at opened short room enough
  have told : { s with isClosed := true }.shut .receiving .telling =
      some (.joining, { s with isClosed := true, queue := s.queue ++ [.close] }) := by
    simp only [QueueSession.shut, opened, Bool.false_eq_true, if_false]
    exact if_pos room
  have alone := run_consumer
    ⟨{ s with isClosed := true, queue := s.queue ++ [.close] }, feeders, .receiving, .joining⟩ rfl
    short (.inr (by simp)) n (by simp only [List.length_append, List.length_singleton]; omega)
  rw [run, step, QueueSession.shut]
  simp only [Program.bind]
  rw [run, step]
  simp only [told, Program.bind]
  exact alone

end Intake

end VersionedStore
