import VersionedStore.Proofs.Client.Queue
import VersionedStore.Proofs.Data.Place

/-!
# Producers on a queued session

Any number of producers add items to a queued session, the consumer takes them out and sends them,
and someone closes the session, the steps in any order and whatever the transport answers. Once the
close has returned, exactly the items whose adds were accepted have been sent, once each and in the
order of the queue, in batches that are full but for the last one.

## Main definitions

* `Intake.Event`, `Intake.history` — what happened to the items in a run
* `Intake.Fed`, `Intake.Sent` — what holds between the steps, of the producers and of the consumer

## Main results

* `Intake.Fed.step`, `Intake.Sent.step` — what every step keeps
* `Intake.closed_accounted` — what has become of the items once the close has returned
-/

namespace VersionedStore

variable {α σ : Type}

namespace Intake

/-! ## What happens in a run -/

/-- What a step means for the items. -/
inductive Event (α : Type)
  /-- The item of the add of a producer at a place was put into the queue. -/
  | accepted (producer place : Nat) (p : Pending α)
  /-- A batch was sent and answered. -/
  | sent (batch : List (Pending α)) (answer : Except ClientError BatchOutcome)

namespace Event

def place? : Event α → Option (Nat × Nat)
  | accepted producer place _ => some (producer, place)
  | sent .. => none

def item? : Event α → Option (Pending α)
  | accepted _ _ p => some p
  | sent .. => none

def batch? : Event α → Option (List (Pending α))
  | accepted .. => none
  | sent batch _ => some batch

def answer? : Event α → Option (Except ClientError BatchOutcome)
  | accepted .. => none
  | sent _ answer => some answer

end Event

section Projections

variable (es : List (Event α))

/-- The adds that were accepted, by their producers and their places, in the order of the queue. -/
def places : List (Nat × Nat) := es.filterMap Event.place?

/-- The items that were accepted, in the order of the queue. -/
def items : List (Pending α) := es.filterMap Event.item?

/-- The batches that were sent, in order. -/
def batches : List (List (Pending α)) := es.filterMap Event.batch?

/-- The answers to the batches. -/
def answers : List (Except ClientError BatchOutcome) := es.filterMap Event.answer?

/-- The totals of the batches whose requests succeeded. -/
def totals : Stats := ((answers es).filterMap Except.toOption).foldl Stats.absorb {}

/-- The failure of a batch. -/
def error? : Except ClientError BatchOutcome → Option ClientError
  | .ok _ => none
  | .error e => some e

/-- The failure of the first batch whose request failed. -/
def firstFailure : Option ClientError := (answers es).findSome? error?

end Projections

/-- What the next step of someone means for the items. -/
def events (t : Transport σ) (w : Intake α) (x : σ) : Actor → List (Event α)
  | .feeder i =>
    match w.feeders[i]? with
    | none => []
    | some f => ((f.accepted? w.session).map (Event.accepted i f.results.length)).toList
  | .consumer =>
    if w.session.sends w.consumer then [.sent w.session.gathered (w.session.answer t x)] else []
  | .closer => []

/-- The session with its producers, and the transport, after a schedule. -/
def after (t : Transport σ) (w : Intake α) (schedule : List Actor) (x : σ) : Intake α × σ :=
  (w.run schedule).run t x

/-- What happened to the items in a run. -/
def history (t : Transport σ) (w : Intake α) : List Actor → σ → List (Event α)
  | [], _ => []
  | a :: rest, x =>
    w.events t x a ++ history t ((w.step a).run t x).1 rest ((w.step a).run t x).2

/-! ## Between the steps -/

/-- The item of an add. -/
def itemAt (adds : List (List (Pending α))) (place : Nat × Nat) : Option (Pending α) :=
  adds[place.1]?.bind fun ps => ps[place.2]?

/-- What holds of the producers between the steps, after what happened to the items. -/
structure Fed (adds : List (List (Pending α))) (es : List (Event α)) (w : Intake α) : Prop where
  follows : ∀ (i : Nat) (f : Feeder α), w.feeders[i]? = some f →
    ∃ ps, adds[i]? = some ps ∧ f.Follows ps
  /-- An add is accepted just if it returns without a failure. -/
  accepted : ∀ i j : Nat, (i, j) ∈ places es ↔
    ∃ f, w.feeders[i]? = some f ∧ f.results[j]? = some (.ok ())
  /-- The adds of a producer are accepted in their order. -/
  ordered : (places es).Pairwise fun a b => a.1 = b.1 → a.2 < b.2
  placed : (items es).map some = (places es).map (itemAt adds)

/-- The item of a command. -/
def commandItem? : Command α → Option (Pending α)
  | .item p => some p
  | .close => none

/-- The items that wait in a queue. -/
def queued (queue : List (Command α)) : List (Pending α) := queue.filterMap commandItem?

/-- What holds of the consumer and the close between the steps, after what happened to the
items. -/
structure Sent (es : List (Event α)) (w : Intake α) : Prop where
  /-- What was accepted was sent, or is gathered, or waits. -/
  account : (batches es).flatten ++ w.session.gathered ++ queued w.session.queue = items es
  /-- All batches are full, but for the last one. -/
  full : w.consumer ≠ .ended →
    ∀ batch ∈ batches es, batch.length = w.session.outbox.config.threshold
  short : w.session.gathered.length ≤ w.session.outbox.config.threshold
  last : w.consumer = .ended → w.session.gathered = [] ∧
    (∀ batch ∈ (batches es).dropLast, batch.length = w.session.outbox.config.threshold) ∧
      ∀ batch ∈ batches es,
        1 ≤ batch.length ∧ batch.length ≤ w.session.outbox.config.threshold
  /-- When nothing will come any more, nothing waits. -/
  drained : w.consumer ≠ .receiving → w.session.refuses = true ∧ w.session.queue = []
  stats : w.session.stats = totals es
  failure : w.session.failure = firstFailure es
  returned : ∀ stats failure, w.closing = .returned stats failure →
    w.consumer = .ended ∧ stats = w.session.stats ∧ failure = w.session.failure

/-! ### Steps of the producers -/

section Projections

variable (es es' : List (Event α))

@[simp] theorem places_append : places (es ++ es') = places es ++ places es' :=
  List.filterMap_append

@[simp] theorem items_append : items (es ++ es') = items es ++ items es' :=
  List.filterMap_append

@[simp] theorem batches_append : batches (es ++ es') = batches es ++ batches es' :=
  List.filterMap_append

@[simp] theorem answers_append : answers (es ++ es') = answers es ++ answers es' :=
  List.filterMap_append

@[simp] theorem items_sent (b : List (Pending α)) (r : Except ClientError BatchOutcome) :
    items [.sent b r] = [] := rfl

@[simp] theorem batches_sent (b : List (Pending α)) (r : Except ClientError BatchOutcome) :
    batches [.sent b r] = [b] := rfl

@[simp] theorem items_accepted (i j : Nat) (p : Pending α) : items [.accepted i j p] = [p] := rfl

@[simp] theorem batches_accepted (i j : Nat) (p : Pending α) :
    batches [.accepted i j p] = [] := rfl

@[simp] theorem answers_accepted (i j : Nat) (p : Pending α) :
    answers [.accepted i j p] = [] := rfl

end Projections

variable {adds : List (List (Pending α))} {es : List (Event α)} {w : Intake α}

/-- Who is no producer leaves the producers as they are. -/
theorem Fed.of_same {w' : Intake α} {later : List (Event α)} (h : Fed adds es w)
    (feeders : w'.feeders = w.feeders) (none : items later = []) (nowhere : places later = []) :
    Fed adds (es ++ later) w' where
  follows := feeders ▸ h.follows
  accepted := by
    rw [places_append, nowhere, List.append_nil, feeders]
    exact h.accepted
  ordered := by
    rw [places_append, nowhere, List.append_nil]
    exact h.ordered
  placed := by
    rw [places_append, items_append, none, nowhere, List.append_nil, List.append_nil]
    exact h.placed

section Fed

variable {i : Nat} {f f' : Feeder α} {s' : QueueSession α}

/-- A step of a producer. -/
theorem Fed.fed {accepted : Option (Pending α)} (h : Fed adds es w)
    (hf : w.feeders[i]? = some f) (did : Feeder.Step w.session f accepted f' s') :
    Fed adds (es ++ (accepted.map (Event.accepted i f.results.length)).toList)
      { w with session := s', feeders := w.feeders.set i f' } := by
  have lt : i < w.feeders.length := (List.getElem?_eq_some_iff.1 hf).1
  obtain ⟨ps, hps, before⟩ := h.follows i f hf
  have follows : ∀ (k : Nat) (g : Feeder α), (w.feeders.set i f')[k]? = some g →
      ∃ ps, adds[k]? = some ps ∧ g.Follows ps := by
    intro k g hg
    obtain ⟨rfl, rfl⟩ | ⟨-, hg⟩ := getElem?_set_cases hf hg
    · exact ⟨ps, hps, did.follows before⟩
    · exact h.follows k g hg
  have others : ∀ k j : Nat,
      (∃ g : Feeder α, (w.feeders.set i f')[k]? = some g ∧ g.results[j]? = some (.ok ())) ↔
      (k, j) ∈ places es ∨ (accepted.isSome ∧ k = i ∧ j = f.results.length) := by
    intro k j
    rw [h.accepted]
    by_cases hk : k = i
    · subst hk
      simp only [List.getElem?_set_self lt, hf, Option.some.injEq, exists_eq_left', did.ok_iff,
        true_and]
    · simp [List.getElem?_set_ne (Ne.symm hk), hk]
  cases accepted with
  | none =>
    refine ⟨follows, fun k j => ?_, ?_, ?_⟩
    · rw [others]
      simp
    · simpa using h.ordered
    · simpa using h.placed
  | some p =>
    refine ⟨follows, fun k j => ?_, ?_, ?_⟩
    · rw [others]
      simp [places, Event.place?]
    · -- The new add is the last one of its producer so far.
      rw [places_append]
      refine List.pairwise_append.2 ⟨h.ordered, List.pairwise_singleton _ _, ?_⟩
      intro a ha b hb
      obtain rfl : b = (i, f.results.length) := by simpa [places, Event.place?] using hb
      rintro rfl
      obtain ⟨g, hg, ok⟩ := (h.accepted _ _).1 ha
      rw [hf] at hg
      obtain rfl := Option.some.inj hg
      exact (List.getElem?_eq_some_iff.1 ok).1
    · rw [places_append, items_append, List.map_append, List.map_append, h.placed]
      congr 1
      simp [items, places, Event.item?, Event.place?, itemAt, hps, did.item before]

end Fed

/-! ### Steps of the consumer and of the close -/

theorem queued_append (cs cs' : List (Command α)) : queued (cs ++ cs') = queued cs ++ queued cs' :=
  List.filterMap_append

/-- The totals and the first failure after one more batch. -/
theorem totals_sent {s : QueueSession α} (stats : s.stats = totals es)
    (failure : s.failure = firstFailure es) (r : Except ClientError BatchOutcome) :
    (s.sent r).stats = totals (es ++ [.sent s.gathered r]) ∧
      (s.sent r).failure = firstFailure (es ++ [.sent s.gathered r]) := by
  have one : answers [Event.sent s.gathered r] = [r] := rfl
  rw [totals, firstFailure, answers_append, one, List.filterMap_append, List.foldl_append,
    List.findSome?_append]
  cases r with
  | ok o => exact ⟨congrArg (·.absorb o) stats, failure.trans (Option.or_none).symm⟩
  | error e => exact ⟨stats, congrArg (·.or (some e)) failure⟩

/-- What does not reach the session leaves it as it was. -/
theorem Sent.of_feeders (h : Sent es w) (feeders : List (Feeder α)) :
    Sent es { w with feeders } :=
  ⟨h.account, h.full, h.short, h.last, h.drained, h.stats, h.failure, h.returned⟩

/-- An item is put into the queue. -/
theorem Sent.enqueue (h : Sent es w) (opened : w.session.refuses = false) (i j : Nat)
    (p : Pending α) :
    Sent (es ++ [.accepted i j p]) { w with session := w.session.enqueue (.item p) } where
  account := by
    rw [QueueSession.enqueue, queued_append, ← List.append_assoc]
    simp only [batches_append, batches_accepted, List.append_nil, items_append, items_accepted]
    exact congrArg (· ++ [p]) h.account
  full := by
    rw [batches_append, batches_accepted, List.append_nil]
    exact h.full
  short := h.short
  last := by
    rw [batches_append, batches_accepted, List.append_nil]
    exact h.last
  drained done := by
    have refuses := (h.drained done).1
    rw [opened] at refuses
    cases refuses
  stats := h.stats.trans (by simp [totals])
  failure := h.failure.trans (by simp [firstFailure])
  returned := h.returned

/-- A step of the consumer. -/
theorem Sent.consumed {r : Option (Except ClientError BatchOutcome)} {stage : ConsumerStage}
    {s' : QueueSession α} (h : Sent es w) (did : w.session.Consumes w.consumer r stage s') :
    Sent (es ++ (r.map (Event.sent w.session.gathered)).toList)
      { w with session := s', consumer := stage } := by
  obtain ⟨s, feeders, consumer, closing⟩ := w
  have running : consumer ≠ .ended := by
    rintro rfl
    cases did
  have returned : ∀ stats failure, closing ≠ .returned stats failure := fun stats failure closed =>
    running (h.returned stats failure closed).1
  have goesOn : ConsumerStage.receiving ≠ .ended := by decide
  have notYet : ConsumerStage.finishing ≠ .ended := by decide
  have finishes : ConsumerStage.finishing ≠ .receiving := by decide
  have account := h.account
  have full := h.full running
  cases did with
  | send r enough =>
    obtain ⟨stats, failure⟩ := totals_sent h.stats h.failure r
    refine ⟨?_, fun _ => ?_, ?_, (absurd · goesOn), fun done => absurd rfl done, stats,
      failure, fun _ _ closed => absurd closed (returned _ _)⟩
    · simpa using account
    · simp only [Option.map_some, Option.toList_some, batches_append, batches_sent,
        List.forall_mem_append, List.forall_mem_singleton, QueueSession.sent_outbox]
      exact ⟨full, Nat.le_antisymm h.short enough⟩
    · simp
  | gather p rest first few =>
    simp only [Option.map_none, Option.toList_none, List.append_nil]
    refine ⟨?_, fun _ => full, ?_, (absurd · goesOn), fun done => absurd rfl done, h.stats,
      h.failure, fun _ _ closed => absurd closed (returned _ _)⟩
    · have first : queued s.queue = p :: queued rest := by rw [first]; rfl
      simpa [first] using account
    · simpa using Nat.succ_le_of_lt few
  | hear rest first few =>
    simp only [Option.map_none, Option.toList_none, List.append_nil]
    refine ⟨?_, fun _ => full, h.short, (absurd · goesOn), fun done => absurd rfl done, h.stats,
      h.failure, fun _ _ closed => absurd closed (returned _ _)⟩
    have first : queued s.queue = queued rest := by rw [first]; rfl
    simpa [first] using account
  | drain empty refuses few =>
    simp only [Option.map_none, Option.toList_none, List.append_nil]
    exact ⟨account, fun _ => full, h.short, (absurd · notYet), fun _ => ⟨refuses, empty⟩,
      h.stats, h.failure, fun _ _ closed => absurd closed (returned _ _)⟩
  | finish empty =>
    simp only [Option.map_none, Option.toList_none, List.append_nil]
    refine ⟨account, fun running => absurd rfl running, h.short, fun _ => ⟨empty, ?_, ?_⟩,
      fun _ => h.drained finishes, h.stats, h.failure,
      fun _ _ closed => absurd closed (returned _ _)⟩
    · exact fun batch hb => full batch (List.dropLast_subset _ hb)
    · intro batch hb
      rw [full batch hb]
      exact ⟨s.outbox.config.threshold_pos, Nat.le_refl _⟩
  | sendLast r some =>
    obtain ⟨stats, failure⟩ := totals_sent h.stats h.failure r
    refine ⟨?_, fun running => absurd rfl running, ?_, fun _ => ⟨?_, ?_, ?_⟩, fun _ => ?_, stats,
      failure, fun _ _ closed => absurd closed (returned _ _)⟩
    · simpa using account
    · simp
    · simp
    · simpa using full
    · simp only [Option.map_some, Option.toList_some, batches_append, batches_sent,
        List.forall_mem_append, List.forall_mem_singleton, QueueSession.sent_outbox]
      refine ⟨fun batch hb => ?_, List.length_pos_of_ne_nil some, h.short⟩
      rw [full batch hb]
      exact ⟨s.outbox.config.threshold_pos, Nat.le_refl _⟩
    · simpa using h.drained finishes

/-- A step of the close. -/
theorem Sent.shut {stage : ClosingStage} {s' : QueueSession α} (h : Sent es w)
    (did : w.session.Shuts w.consumer w.closing stage s') :
    Sent es { w with session := s', closing := stage } := by
  obtain ⟨s, feeders, consumer, closing⟩ := w
  cases did with
  | call => exact ⟨h.account, h.full, h.short, h.last, h.drained, h.stats, h.failure, nofun⟩
  | skip => exact ⟨h.account, h.full, h.short, h.last, h.drained, h.stats, h.failure, nofun⟩
  | tell opened =>
    refine ⟨?_, h.full, h.short, h.last, ?_, h.stats, h.failure, nofun⟩
    · rw [QueueSession.enqueue, queued_append]
      exact (congrArg _ (List.append_nil _)).trans h.account
    · intro done
      have refuses := (h.drained done).1
      rw [opened] at refuses
      cases refuses
  | join ended =>
    refine ⟨h.account, h.full, h.short, h.last, h.drained, h.stats, h.failure, ?_⟩
    rintro stats failure ⟨⟩
    exact ⟨ended, rfl, rfl⟩

/-! ## A run -/

variable (t : Transport σ) (x : σ)

/-- Where the batches go does not change. -/
theorem outbox_step (w : Intake α) (a : Actor) :
    ((w.step a).run t x).1.session.outbox = w.session.outbox := by
  cases a with
  | feeder i =>
    rw [step]
    split
    · rfl
    · next f' s' h =>
      obtain ⟨f, -, hstep⟩ := Option.bind_eq_some_iff.1 h
      have cases := f.step_cases w.session
      rw [hstep] at cases
      obtain ⟨-, rfl⟩ | ⟨p, -, -, rfl⟩ := cases.session <;> rfl
  | consumer =>
    have cases := w.session.consume_cases t w.consumer x
    rw [step]
    split
    · rfl
    · next next h =>
      rw [h] at cases
      rw [Program.run_bind]
      exact cases.1.outbox
  | closer =>
    rw [step]
    split
    · rfl
    · next h => exact (QueueSession.shut_cases h).outbox

/-- What every step keeps. -/
theorem step_kept (fed : Fed adds es w) (sent : Sent es w) (a : Actor) :
    Fed adds (es ++ w.events t x a) ((w.step a).run t x).1 ∧
      Sent (es ++ w.events t x a) ((w.step a).run t x).1 := by
  cases a with
  | feeder i =>
    rw [step, events]
    cases hf : w.feeders[i]? with
    | none => exact ⟨by simpa [Program.run] using fed, by simpa [Program.run] using sent⟩
    | some f =>
      have cases := f.step_cases w.session
      simp only [Option.bind_some]
      cases hstep : f.step w.session with
      | none =>
        rw [hstep] at cases
        simp only [cases, Option.map_none, Option.toList_none, List.append_nil]
        exact ⟨fed, sent⟩
      | some moved =>
        obtain ⟨f', s'⟩ := moved
        rw [hstep] at cases
        refine ⟨fed.fed hf cases, ?_⟩
        obtain ⟨none, same⟩ | ⟨p, some, opened, same⟩ := cases.session
        · rw [none, same]
          simpa [Program.run] using sent.of_feeders (w.feeders.set i f')
        · rw [some, same]
          exact (sent.enqueue opened i _ p).of_feeders (w.feeders.set i f')
  | consumer =>
    have cases := w.session.consume_cases t w.consumer x
    rw [step, events]
    cases hstep : w.session.consume w.consumer with
    | none =>
      rw [hstep] at cases
      simp only [cases, Bool.false_eq_true, if_false, List.append_nil]
      exact ⟨fed, sent⟩
    | some next =>
      rw [hstep] at cases
      have kept := sent.consumed cases.1
      rw [Program.run_bind]
      cases hsends : w.session.sends w.consumer with
      | true =>
        rw [hsends] at kept
        exact ⟨fed.of_same rfl rfl rfl, kept⟩
      | false =>
        rw [hsends] at kept
        exact ⟨fed.of_same rfl rfl rfl, kept⟩
  | closer =>
    rw [step, events, List.append_nil]
    cases hstep : w.session.shut w.consumer w.closing with
    | none => exact ⟨fed, sent⟩
    | some moved =>
      obtain ⟨stage, s'⟩ := moved
      refine ⟨?_, sent.shut (QueueSession.shut_cases hstep)⟩
      exact ⟨fed.follows, fed.accepted, fed.ordered, fed.placed⟩

theorem after_cons (w : Intake α) (a : Actor) (rest : List Actor) :
    w.after t (a :: rest) x = ((w.step a).run t x).1.after t rest ((w.step a).run t x).2 :=
  Program.run_bind ..

theorem outbox_after (w : Intake α) (schedule : List Actor) :
    (w.after t schedule x).1.session.outbox = w.session.outbox := by
  induction schedule generalizing w x with
  | nil => rfl
  | cons a rest ih => rw [after_cons, ih, outbox_step]

/-- What every run keeps. -/
theorem run_kept (fed : Fed adds es w) (sent : Sent es w) (schedule : List Actor) :
    Fed adds (es ++ w.history t schedule x) (w.after t schedule x).1 ∧
      Sent (es ++ w.history t schedule x) (w.after t schedule x).1 := by
  induction schedule generalizing es w x with
  | nil =>
    rw [history, List.append_nil]
    exact ⟨fed, sent⟩
  | cons a rest ih =>
    obtain ⟨fed, sent⟩ := step_kept t x fed sent a
    rw [after_cons, history, ← List.append_assoc]
    exact ih _ fed sent

theorem start_fed (outbox : Outbox α) (adds : List (List (Pending α))) :
    Fed adds [] (start outbox adds) := by
  have begun : ∀ (i : Nat) (f : Feeder α), (start outbox adds).feeders[i]? = some f →
      ∃ ps, adds[i]? = some ps ∧ .ofItems ps = f := by
    intro i f hf
    rwa [start, List.getElem?_map, Option.map_eq_some_iff] at hf
  refine ⟨fun i f hf => ?_, fun i j => ?_, .nil, rfl⟩
  · obtain ⟨ps, hps, rfl⟩ := begun i f hf
    exact ⟨ps, hps, [], rfl, rfl⟩
  · refine iff_of_false (List.not_mem_nil) ?_
    rintro ⟨f, hf, ok⟩
    obtain ⟨ps, -, rfl⟩ := begun i f hf
    cases ok

theorem start_sent (outbox : Outbox α) (adds : List (List (Pending α))) :
    Sent [] (start outbox adds) :=
  ⟨rfl, fun _ => nofun, Nat.zero_le _, nofun, fun done => absurd rfl done, rfl, rfl, nofun⟩

/-- The bulk request of a step is that of the batch that is sent in it. -/
theorem bulks_step (w : Intake α) (a : Actor) :
    (w.step a).bulks t x = (batches (w.events t x a)).flatMap Pending.requests := by
  cases a with
  | feeder i =>
    have none : batches (w.events t x (.feeder i)) = [] := by
      rw [events]
      split
      · rfl
      · next f _ => cases f.accepted? w.session <;> rfl
    rw [step, none]
    split <;> rfl
  | consumer =>
    have cases := w.session.consume_cases t w.consumer x
    rw [step, events]
    split
    · next waits =>
      rw [waits] at cases
      rw [cases]
      rfl
    · next next goesOn =>
      rw [goesOn] at cases
      rw [Program.bulks_bind, Program.bulks_done, List.append_nil, cases.2]
      split
      · rw [batches_sent, List.flatMap_singleton]
      · rfl
  | closer =>
    rw [step]
    split <;> rfl

theorem bulks_run (w : Intake α) (schedule : List Actor) :
    (w.run schedule).bulks t x =
      (batches (w.history t schedule x)).flatMap Pending.requests := by
  induction schedule generalizing w x with
  | nil => rfl
  | cons a rest ih =>
    rw [run, Program.bulks_bind, ih, history, batches_append, List.flatMap_append, bulks_step]

/-- Producers on a queued session that was closed, the steps in any order, with any transport. The
adds that were accepted are those that returned without a failure, each is in the queue once and
those of a producer in their order. The batches that were sent are their items in the order of the
queue; every batch but the last one is full, the last one is not empty, and each was one bulk
request. The close returned the totals of the batches whose requests succeeded, and the failure of
the first one whose request failed. -/
theorem closed_accounted (outbox : Outbox α) (adds : List (List (Pending α)))
    (schedule : List Actor) {stats : Stats} {failure : Option ClientError}
    (closed : ((start outbox adds).after t schedule x).1.closing = .returned stats failure) :
    let history := (start outbox adds).history t schedule x
    let feeders := ((start outbox adds).after t schedule x).1.feeders
    (∀ i j : Nat, (i, j) ∈ places history ↔
        ∃ f : Feeder α, feeders[i]? = some f ∧ f.results[j]? = some (.ok ())) ∧
      (places history).Nodup ∧
      (places history).Pairwise (fun a b => a.1 = b.1 → a.2 < b.2) ∧
      (batches history).flatten.map some = (places history).map (itemAt adds) ∧
      (∀ batch ∈ (batches history).dropLast, batch.length = outbox.config.threshold) ∧
      (∀ batch ∈ batches history,
        1 ≤ batch.length ∧ batch.length ≤ outbox.config.threshold) ∧
      ((start outbox adds).run schedule).bulks t x =
        (batches history).flatMap Pending.requests ∧
      stats = totals history ∧ failure = firstFailure history := by
  intro history feeders
  obtain ⟨fed, sent⟩ := run_kept t x (start_fed outbox adds) (start_sent outbox adds) schedule
  rw [List.nil_append] at fed sent
  obtain ⟨ended, rfl, rfl⟩ := sent.returned stats failure closed
  obtain ⟨gathered, allButLast, all⟩ := sent.last ended
  rw [outbox_after] at allButLast all
  -- When the consumer has ended, nothing is gathered and nothing waits.
  have account := sent.account
  rw [gathered, (sent.drained (by rw [ended]; nofun)).2, List.append_nil] at account
  have placed : (batches history).flatten.map some = (places history).map (itemAt adds) := by
    rw [← fed.placed, ← account]
    exact congrArg _ (List.append_nil _).symm
  have distinct : (places history).Nodup := fed.ordered.imp fun before same => by
    subst same
    exact absurd (before rfl) (Nat.lt_irrefl _)
  exact ⟨fed.accepted, distinct, fed.ordered, placed, allButLast, all,
    bulks_run t x (start outbox adds) schedule, sent.stats, sent.failure⟩

/-- A store whose batches have two items. -/
def outboxOfTwo : Outbox Unit :=
  ⟨⟨fun _ => .ok [], fun _ => .ok ()⟩, "things", { batchSize := 2 }⟩

/-- A transport that loses its first bulk request and carries the others out. -/
def firstLost : Transport Nat := fun c n =>
  match c with
  | .bulk _ actions _ =>
    (if n = 0 then .error (.transport "down" true)
      else .ok (actions.map fun _ => ⟨.delete, { status := 200 }⟩), n + 1)
  | _ => (.error (.transport "down" true), n)

/-- Two producers: the second item of the one is accepted when the close already waits in the
queue, and the third item of the other one is refused. -/
def busy : List Actor :=
  [.feeder 0, .feeder 0, .feeder 1, .feeder 1, .consumer, .consumer, .consumer,
    .feeder 0, .feeder 0, .feeder 1, .closer, .closer, .feeder 1, .consumer, .feeder 1, .feeder 0,
    .consumer, .consumer, .consumer, .consumer, .consumer, .closer]

theorem closed_accounted_busy :
    let adds :=
      [[Pending.deletion "1", .deletion "3", .deletion "5"], [.deletion "2", .deletion "4"]]
    let history := (start outboxOfTwo adds).history firstLost busy 0
    let stats : Stats := { batches := 1, items := 2, succeeded := 2 }
    ((start outboxOfTwo adds).after firstLost busy 0).1.closing =
        .returned stats (some (.transport "down" true)) ∧
      (batches history).map (List.map (·.intent)) =
        [[.delete "1" none, .delete "2" none], [.delete "3" none, .delete "4" none]] ∧
      (batches history).flatten.map some = (places history).map (itemAt adds) ∧
      stats = totals history ∧ firstFailure history = some (.transport "down" true) := by
  intro adds history stats
  have closed : ((start outboxOfTwo adds).after firstLost busy 0).1.closing =
      .returned stats (some (.transport "down" true)) := by decide +kernel
  have accounted := closed_accounted firstLost 0 outboxOfTwo adds busy closed
  have sent : (batches history).map (List.map (·.intent)) =
      [[.delete "1" none, .delete "2" none], [.delete "3" none, .delete "4" none]] := by
    decide +kernel
  exact ⟨closed, sent, accounted.2.2.2.1, accounted.2.2.2.2.2.2.2.1,
    accounted.2.2.2.2.2.2.2.2.symm⟩

end Intake

end VersionedStore
