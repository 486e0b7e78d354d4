import VersionedStore.Proofs.Client.Accounting
import VersionedStore.Testing.Model

/-!
# Sessions and queued sessions agree

A session sends a batch when the item that fills it is added; a queued session has a consumer that
cuts the batches out of a queue while items are still being added. If one producer adds the same
items and the session is closed then, both cut the same batches, so that with the same answers they
make the same calls, tell the same reports and end with the same totals.

## Main definitions

* `Pending.cut` — the batches that items are cut into
* `Intake.Feeds` — a producer adds its items while the session is open
* `Intake.Serves` — a schedule by which a producer adds its items and then the session is closed

## Main results

* `Pending.map_length_cut` — the sizes of the batches
* `Session.sends_feed`, `Intake.Serves.batches_eq` — both sessions send these batches
* `Intake.exists_serves` — there is such a schedule
* `Session.agrees_with_queued` — what the two sessions have in common
-/

namespace VersionedStore

variable {α σ : Type}

/-! ## Batches -/

namespace Pending

/-- The batches that items are cut into, behind some that are gathered: a batch is cut off as soon
as it is full, and what is left over is the last one. -/
def cut (size : Nat) : (gathered items : List (Pending α)) → List (List (Pending α))
  | gathered, [] => Outbox.asBatch gathered
  | gathered, p :: rest =>
    if size ≤ gathered.length + 1 then (gathered ++ [p]) :: cut size [] rest
    else cut size (gathered ++ [p]) rest

variable {size : Nat} {gathered items rest : List (Pending α)}

/-- Too few items to fill a batch are left over. -/
theorem cut_of_lt (h : gathered.length + items.length < size) :
    cut size gathered items = Outbox.asBatch (gathered ++ items) := by
  induction items generalizing gathered with
  | nil => rw [cut, List.append_nil]
  | cons p items ih =>
    rw [List.length_cons] at h
    rw [cut, if_neg (by omega), ih (by rw [List.length_append, List.length_singleton]; omega),
      List.append_assoc]
    rfl

/-- Items that fill a batch are cut off. -/
theorem cut_append (some : items ≠ []) (h : gathered.length + items.length = size) :
    cut size gathered (items ++ rest) = (gathered ++ items) :: cut size [] rest := by
  induction items generalizing gathered with
  | nil => exact absurd rfl some
  | cons p items ih =>
    rw [List.length_cons] at h
    rw [List.cons_append, cut]
    by_cases last : items = []
    · subst last
      rw [List.length_nil] at h
      rw [if_pos (by omega), List.nil_append]
    · have more := List.length_pos_of_ne_nil last
      rw [if_neg (by omega), ih last (by rw [List.length_append, List.length_singleton]; omega),
        List.append_assoc]
      rfl

/-- Batches that are full, but for the last one, are those that their items are cut into. -/
theorem cut_flatten {bs : List (List (Pending α))}
    (full : ∀ batch ∈ bs.dropLast, batch.length = size)
    (bounds : ∀ batch ∈ bs, 1 ≤ batch.length ∧ batch.length ≤ size) :
    cut size [] bs.flatten = bs := by
  induction bs with
  | nil => rfl
  | cons batch bs ih =>
    obtain ⟨⟨some, small⟩, bounds⟩ := List.forall_mem_cons.1 bounds
    have nonempty : batch ≠ [] := List.length_pos_iff.1 some
    rw [List.flatten_cons]
    by_cases fills : batch.length = size
    · rw [cut_append nonempty (by rw [List.length_nil, Nat.zero_add, fills]), List.nil_append,
        ih _ bounds]
      intro other among
      have more : bs ≠ [] := List.ne_nil_of_mem (List.dropLast_subset _ among)
      refine full other ?_
      rw [List.dropLast_cons_of_ne_nil more]
      exact List.mem_cons_of_mem _ among
    · -- Only the last batch may have room for more items.
      have last : bs = [] := by
        by_contra more
        refine fills (full batch ?_)
        rw [List.dropLast_cons_of_ne_nil more]
        exact List.mem_cons_self
      subst last
      rw [List.flatten_nil, List.append_nil,
        cut_of_lt (by rw [List.length_nil]; omega), List.nil_append,
        Outbox.asBatch_of_ne_nil nonempty]

/-- The sizes of the batches are those of the plan. -/
theorem map_length_cut (positive : 0 < size) (items : List (Pending α)) :
    (cut size [] items).map List.length = (BatchPlan.mk items.length size).batches := by
  induction length : items.length using Nat.strongRecOn generalizing items with
  | ind n ih =>
    subst length
    rw [BatchPlan.batches, BatchPlan.full]
    by_cases short : items.length < size
    · rw [cut_of_lt (by rwa [List.length_nil, Nat.zero_add]), Nat.div_eq_of_lt short,
        Nat.mod_eq_of_lt short, List.nil_append, Outbox.asBatch]
      cases items <;> rfl
    · have enough := Nat.le_of_not_lt short
      have first : (items.take size).length = size := List.length_take_of_le enough
      have others : (items.drop size).length = items.length - size := List.length_drop
      have nonempty : items.take size ≠ [] := by
        rw [← List.length_pos_iff, first]
        exact positive
      rw [← List.take_append_drop size items,
        cut_append nonempty (by rw [List.length_nil, Nat.zero_add, first]), List.nil_append,
        List.map_cons, first, ih _ (by omega) _ others, List.take_append_drop,
        Nat.div_eq_sub_div positive enough, Nat.mod_eq_sub_mod enough]
      rfl

end Pending

/-! ## Sessions -/

namespace Session

variable {t : Transport σ} {x x' : σ} {bs : List (List (Pending α))} {log : List Exchange}
  {s : Session α}

/-- The calls that add items and close the session then. -/
def feed (items : List (Pending α)) : List (SharedCall α) := items.map .add ++ [.close]

/-- A session that is fed sends the batches that the items are cut into. -/
theorem sends_feed (h : s.outbox.Sends t x bs log x' s.stats s.notices)
    {gathered : List (Pending α)} (buffer : s.buffer = ⟨gathered, false⟩)
    (items : List (Pending α)) :
    let program := s.callAll (feed items)
    s.outbox.Sends t x (bs ++ Pending.cut s.outbox.config.threshold gathered items)
      (log ++ program.exchanges t x') (program.run t x').2 (program.run t x').1.2.stats
      (program.run t x').1.2.notices := by
  induction items generalizing s x' bs log gathered with
  | nil =>
    have last := h.call .close
    rw [show s.batchOf .close = gathered by simp [batchOf, buffer]] at last
    have once : s.callAll (feed []) = (s.call .close).bind fun r => .done ([r.1], r.2) := rfl
    simp only [once, Program.exchanges_bind, Program.exchanges_done, List.append_nil,
      Program.run_bind, Program.run]
    exact last
  | cons p items ih =>
    have first := h.call (.add p)
    obtain ⟨run, after, outbox⟩ := s.run_call t x' (.add p)
    have kept : ((s.call (.add p)).run t x').1.2.outbox = s.outbox := by rw [run]; exact outbox
    have buffered : ((s.call (.add p)).run t x').1.2.buffer = s.bufferAfter (.add p) := by
      rw [run]; exact after
    rw [show feed (p :: items) = .add p :: feed items from rfl, callAll]
    simp only [Program.exchanges_bind, Program.exchanges_done, List.append_nil, Program.run_bind,
      Program.run]
    rw [Pending.cut, ← List.append_assoc]
    simp only [batchOf, bufferAfter, fills, buffer, Bool.false_eq_true, if_false] at first buffered
    split at first
    · next full =>
      rw [Outbox.asBatch_of_ne_nil (by simp)] at first
      rw [if_pos full] at buffered
      have others := ih (by rw [kept]; exact first) buffered
      rw [kept] at others
      rw [if_pos full, List.append_cons]
      exact others
    · next few =>
      have none : bs ++ Outbox.asBatch [] = bs := List.append_nil _
      rw [none] at first
      rw [if_neg few] at buffered
      have others := ih (by rw [kept]; exact first) buffered
      rw [kept] at others
      rw [if_neg few]
      exact others

end Session

/-! ## Queued sessions -/

/-- The items of the adds that have not returned. -/
def Feeder.left (f : Feeder α) : List (Pending α) := f.offered.toList ++ f.todo

namespace QueueSession

/-- No one has begun to close a session. -/
structure Open (s : QueueSession α) : Prop where
  uncalled : s.isClosed = false
  taking : s.refuses = false
  untold : Command.close ∉ s.queue

variable {s s' : QueueSession α}

theorem Open.enqueue (h : s.Open) (p : Pending α) : (s.enqueue (.item p)).Open :=
  ⟨h.uncalled, h.taking, fun last => by simpa [h.untold] using List.mem_append.1 last⟩

/-- The consumer does not close a session. -/
theorem Open.consumed (h : s.Open) {stage stage' : ConsumerStage}
    {r : Option (Except ClientError BatchOutcome)} (did : s.Consumes stage r stage' s') :
    s'.Open := by
  obtain ⟨uncalled, taking, untold⟩ := h
  cases did with
  | send r | sendLast r => cases r <;> exact ⟨uncalled, taking, untold⟩
  | gather p rest first =>
    rw [first] at untold
    exact ⟨uncalled, taking, fun last => untold (List.mem_cons_of_mem _ last)⟩
  | hear rest first =>
    rw [first] at untold
    exact absurd List.mem_cons_self untold
  | drain | finish => exact ⟨uncalled, taking, untold⟩

/-- While no one closes a session no add is refused. -/
theorem Open.fed (h : s.Open) {f f' : Feeder α} (moved : f.step s = some (f', s')) :
    (f.accepted? s).toList ++ f'.left = f.left ∧ s'.Open := by
  obtain ⟨offered, todo, results⟩ := f
  cases offered with
  | none =>
    have nothing : Feeder.accepted? s ⟨none, todo, results⟩ = none := by simp [Feeder.accepted?]
    cases todo with
    | nil => cases moved
    | cons p rest =>
      simp only [Feeder.step, h.uncalled, h.taking, Bool.false_eq_true, or_self, if_false,
        Option.some.injEq, Prod.mk.injEq] at moved
      obtain ⟨rfl, rfl⟩ := moved
      rw [nothing]
      exact ⟨rfl, h⟩
  | some p =>
    by_cases room : s.queue.length < s.capacity
    · simp only [Feeder.step, h.taking, room, Bool.false_eq_true, if_false, if_true,
        Option.some.injEq, Prod.mk.injEq] at moved
      obtain ⟨rfl, rfl⟩ := moved
      simp only [Feeder.accepted?, h.taking, room, Bool.false_eq_true, if_false, if_true]
      exact ⟨rfl, h.enqueue p⟩
    · simp only [Feeder.step, h.taking, room, Bool.false_eq_true, if_false] at moved
      cases moved

end QueueSession

namespace Intake

variable {t : Transport σ} {x : σ} {b : Outbox α} {all : List (Pending α)} {es : List (Event α)}
  {w : Intake α}

theorem after_append (w : Intake α) (schedule later : List Actor) :
    w.after t (schedule ++ later) x =
      (w.after t schedule x).1.after t later (w.after t schedule x).2 := by
  induction schedule generalizing w x with
  | nil => rfl
  | cons a rest ih => rw [List.cons_append, after_cons, after_cons, ih]

theorem history_concat (w : Intake α) (schedule later : List Actor) :
    w.history t (schedule ++ later) x = w.history t schedule x ++
      (w.after t schedule x).1.history t later (w.after t schedule x).2 := by
  induction schedule generalizing w x with
  | nil => rfl
  | cons a rest ih => rw [List.cons_append, history, history, after_cons, ih, List.append_assoc]

/-- One producer adds its items while no one closes the session: those that were accepted and
those whose adds have not returned are all of them. -/
structure Feeds (all : List (Pending α)) (es : List (Event α)) (w : Intake α) : Prop where
  session : w.session.Open
  feeder : ∃ f, w.feeders = [f] ∧ items es ++ f.left = all

theorem Feeds.step (h : Feeds all es w) {a : Actor} (other : a ≠ .closer) :
    Feeds all (es ++ w.events t x a) ((w.step a).run t x).1 := by
  obtain ⟨s, feeders, consumer, closing⟩ := w
  obtain ⟨opened, f, one, account⟩ := h
  simp only at opened one
  subst one
  cases a with
  | closer => exact absurd rfl other
  | consumer =>
    have cases := s.consume_cases t consumer x
    rw [Intake.step, events]
    cases goesOn : s.consume consumer with
    | none =>
      rw [goesOn] at cases
      rw [cases, if_neg Bool.false_ne_true, List.append_nil]
      exact ⟨opened, f, rfl, account⟩
    | some next =>
      rw [goesOn] at cases
      rw [Program.run_bind]
      refine ⟨opened.consumed cases.1, f, rfl, ?_⟩
      split
      · rwa [items_append, items_sent, List.append_nil]
      · rwa [List.append_nil]
  | feeder i =>
    rw [Intake.step, events]
    cases i with
    | succ i =>
      simp only [List.getElem?_cons_succ, List.getElem?_nil, Option.bind_none, List.append_nil]
      exact ⟨opened, f, rfl, account⟩
    | zero =>
      simp only [List.getElem?_cons_zero, Option.bind_some]
      cases moved : f.step s with
      | none =>
        have waits := f.step_cases s
        rw [moved] at waits
        rw [waits, Option.map_none, Option.toList_none, List.append_nil]
        exact ⟨opened, f, rfl, account⟩
      | some after =>
        obtain ⟨f', s'⟩ := after
        obtain ⟨left, opened⟩ := opened.fed moved
        refine ⟨opened, f', rfl, ?_⟩
        rw [← account, ← left, items_append, List.append_assoc]
        cases f.accepted? s <;> rfl

theorem Feeds.run (h : Feeds all es w) {schedule : List Actor} (undisturbed : .closer ∉ schedule) :
    Feeds all (es ++ w.history t schedule x) (w.after t schedule x).1 := by
  induction schedule generalizing w x es with
  | nil =>
    rw [history, List.append_nil]
    exact h
  | cons a rest ih =>
    obtain ⟨first, rest⟩ := not_or.1 (mt List.mem_cons.2 undisturbed)
    rw [after_cons, history, ← List.append_assoc]
    exact ih (h.step (Ne.symm first)) rest

/-- The adds of all producers have returned. -/
def Idle (w : Intake α) : Prop := ∀ f ∈ w.feeders, f.left = []

/-- Nothing is put into the queue any more. -/
theorem Idle.step (h : w.Idle) (a : Actor) :
    items (w.events t x a) = [] ∧ ((w.step a).run t x).1.Idle := by
  cases a with
  | closer =>
    rw [Intake.step]
    refine ⟨rfl, ?_⟩
    split <;> exact h
  | consumer =>
    rw [Intake.step, events]
    constructor
    · split <;> rfl
    · split
      · exact h
      · rw [Program.run_bind]
        exact h
  | feeder i =>
    rw [Intake.step, events]
    cases here : w.feeders[i]? with
    | none => exact ⟨rfl, h⟩
    | some f =>
      have nothing := h f (List.mem_of_getElem? here)
      obtain ⟨offered, todo, results⟩ := f
      obtain ⟨unoffered, rfl⟩ := List.append_eq_nil_iff.1 nothing
      obtain rfl : offered = none := Option.toList_eq_nil_iff.1 unoffered
      simp only [Feeder.accepted?, ite_self]
      exact ⟨rfl, h⟩

theorem Idle.items_history (h : w.Idle) (schedule : List Actor) :
    items (w.history t schedule x) = [] := by
  induction schedule generalizing w x with
  | nil => rfl
  | cons a rest ih =>
    obtain ⟨none, idle⟩ := h.step (t := t) (x := x) a
    rw [history, items_append, none, ih idle]
    rfl

/-- One producer adds items and closes the session when its adds have returned; the close has
returned then. -/
structure Serves (b : Outbox α) (all : List (Pending α)) (t : Transport σ) (x : σ)
    (feeding closing : List Actor) (stats : Stats) (failure : Option ClientError) : Prop where
  undisturbed : .closer ∉ feeding
  fed : ((start b [all]).after t feeding x).1.Idle
  closed : ((start b [all]).after t (feeding ++ closing) x).1.closing = .returned stats failure

/-- The batches that are sent then are those that the items are cut into. -/
theorem Serves.batches_eq {feeding closing : List Actor} {stats : Stats}
    {failure : Option ClientError} (h : Serves b all t x feeding closing stats failure) :
    batches ((start b [all]).history t (feeding ++ closing) x) =
        Pending.cut b.config.threshold [] all ∧
      stats = ((start b [all]).after t (feeding ++ closing) x).1.session.stats := by
  obtain ⟨-, sent⟩ := run_kept t x (start_fed b [all]) (start_sent b [all]) (feeding ++ closing)
  rw [List.nil_append] at sent
  obtain ⟨ended, rfl, -⟩ := sent.returned stats failure h.closed
  obtain ⟨gathered, full, bounds⟩ := sent.last ended
  have account := sent.account
  rw [gathered, (sent.drained (by rw [ended]; nofun)).2, List.append_nil] at account
  -- All items were accepted before the close, and none behind it.
  have begun : Feeds all [] (start b [all]) :=
    ⟨⟨rfl, rfl, List.not_mem_nil⟩, .ofItems all, rfl, rfl⟩
  have fed := begun.run (t := t) (x := x) h.undisturbed
  obtain ⟨f, one, accepted⟩ := fed.feeder
  have none : f.left = [] := h.fed f (by rw [one]; exact List.mem_singleton_self f)
  rw [none, List.append_nil, List.nil_append] at accepted
  rw [history_concat, items_append, accepted, h.fed.items_history, List.append_nil,
    ← history_concat] at account
  refine ⟨?_, rfl⟩
  rw [outbox_after] at full bounds
  exact (Pending.cut_flatten full bounds).symm.trans
    (congrArg _ ((List.append_nil _).symm.trans account))

/-! ### A schedule -/

/-- A producer is between two adds, and the consumer has taken all that it has added so far. -/
structure Ready (todo : List (Pending α)) (w : Intake α) : Prop where
  session : w.session.Open
  feeder : ∃ results, w.feeders = [⟨none, todo, results⟩]
  taken : w.session.queue = []
  short : w.session.gathered.length < w.session.outbox.config.threshold
  consumer : w.consumer = .receiving
  closing : w.closing = .calling

/-- An add that goes through the queue at once. -/
def round : List Actor := [.feeder 0, .feeder 0, .consumer, .consumer]

theorem Ready.round {p : Pending α} {rest : List (Pending α)} (h : Ready (p :: rest) w) :
    Ready rest (w.after t round x).1 := by
  obtain ⟨⟨outbox, queue, isClosed, refuses, gathered, stats, failure, notices⟩, feeders,
    consumer, closing⟩ := w
  obtain ⟨⟨rfl, rfl, -⟩, ⟨results, rfl⟩, rfl, short, rfl, rfl⟩ := h
  have room : 0 < outbox.config.threshold := outbox.config.threshold_pos
  have notFull := Nat.not_le_of_lt short
  simp only at short notFull
  let s : QueueSession α :=
    ⟨outbox, [], false, false, gathered ++ [p], stats, failure, notices⟩
  have opened : s.Open := ⟨rfl, rfl, List.not_mem_nil⟩
  have size : s.gathered.length = gathered.length + 1 := List.length_append
  -- The item goes through the queue.
  have passed : Intake.run ⟨⟨outbox, [], false, false, gathered, stats, failure, notices⟩,
      [⟨none, p :: rest, results⟩], .receiving, .calling⟩ Intake.round =
        Intake.run ⟨s, [⟨none, rest, results ++ [.ok ()]⟩], .receiving, .calling⟩ [.consumer] := by
    simp [Intake.round, run, step, Feeder.step, Feeder.got, QueueSession.capacity, room,
      QueueSession.enqueue, QueueSession.consume, notFull, Program.bind, s]
  rw [after, passed, run, Program.run_bind, step]
  by_cases full : outbox.config.threshold ≤ gathered.length + 1
  · have sends : s.consume .receiving = some (s.send.bind fun s => .done (.receiving, s)) :=
      if_pos (size ▸ full)
    simp only [sends, Program.run_bind, run, Program.run, s.run_send]
    have did := QueueSession.Consumes.send (s := s) (s.answer t x) (size ▸ full)
    refine ⟨opened.consumed did, ⟨_, rfl⟩, s.sent_queue _, ?_, rfl, rfl⟩
    rw [s.sent_gathered, s.sent_outbox]
    exact room
  · have waits : s.consume .receiving = none := if_neg (size ▸ full)
    simp only [waits, run, Program.run]
    exact ⟨opened, ⟨_, rfl⟩, rfl, Nat.lt_of_not_le (size ▸ full), rfl, rfl⟩

/-- The producer makes all its adds. -/
theorem Ready.exists_feeding {todo : List (Pending α)} (h : Ready todo w) (x : σ) :
    ∃ feeding, Actor.closer ∉ feeding ∧ Ready [] (w.after t feeding x).1 := by
  induction todo generalizing w x with
  | nil => exact ⟨[], List.not_mem_nil, h⟩
  | cons p rest ih =>
    obtain ⟨feeding, undisturbed, ready⟩ :=
      ih (h.round (t := t) (x := x)) (w.after t Intake.round x).2
    refine ⟨Intake.round ++ feeding, ?_, ?_⟩
    · rw [List.mem_append]
      exact not_or.2 ⟨by decide, undisturbed⟩
    · rwa [after_append]

/-- A producer can make its adds and close the session. -/
theorem exists_serves (b : Outbox α) (all : List (Pending α)) (t : Transport σ) (x : σ) :
    ∃ feeding closing stats failure, Serves b all t x feeding closing stats failure := by
  have ready : Ready all (start b [all]) :=
    ⟨⟨rfl, rfl, List.not_mem_nil⟩, ⟨[], rfl⟩, rfl, b.config.threshold_pos, rfl, rfl⟩
  obtain ⟨feeding, undisturbed, done⟩ := ready.exists_feeding (t := t) x
  generalize after : (start b [all]).after t feeding x = r at done
  obtain ⟨w, x'⟩ := r
  obtain ⟨results, idle⟩ := done.feeder
  have room : w.session.queue.length < w.session.capacity := by
    rw [done.taken]
    exact w.session.outbox.config.threshold_pos
  have closes := w.run_close done.closing done.consumer done.session.taking done.short room 4
    (by rw [done.taken]; exact Nat.le_refl 4)
  let s := (w.session.close.run t x').1
  refine ⟨feeding, .closer :: .closer :: List.replicate 4 .consumer ++ [.closer], s.stats,
    s.failure, undisturbed, ?_, ?_⟩
  · rw [after]
    intro f hf
    rw [idle] at hf
    obtain rfl := List.mem_singleton.1 hf
    rfl
  · have joined : (w.after t (.closer :: .closer :: List.replicate 4 .consumer) x').1 =
        { w with session := s, consumer := .ended, closing := .joining } := by
      rw [Intake.after, closes, Program.run_bind]
      rfl
    rw [after_append, after, after_append, joined]
    rfl

end Intake

/-! ## Both -/

theorem Program.bulks_eq_filterMap_exchanges (t : Transport σ) (p : Program α) (x : σ) :
    p.bulks t x = (p.exchanges t x).filterMap fun e => e.1.bulk? := by
  rw [bulks, calls_eq_map_exchanges, List.filterMap_map]
  rfl

/-- The bulk requests of batches are of their sizes. -/
theorem Outbox.map_length_bulks_sendAll (b : Outbox α) (t : Transport σ) (x : σ)
    {bs : List (List (Pending α))} (some : ∀ batch ∈ bs, batch ≠ []) :
    ((b.sendAll bs).bulks t x).map List.length = bs.map List.length := by
  induction bs generalizing x with
  | nil => rfl
  | cons batch bs ih =>
    obtain ⟨first, rest⟩ := List.forall_mem_cons.1 some
    rw [sendAll, Program.bulks_bind, Program.bulks_bind, bulks_dispatch, Program.bulks_done,
      List.append_nil, List.map_append, ih _ rest, Pending.requests, if_neg (by simpa using first),
      List.map_singleton, List.length_map]
    rfl

/-- One producer adds items, going on after a failure, and closes the session. A queued session,
however its steps are ordered, makes the same calls as a session does, in the same order and with
the same replies; its reports are the same ones in the same order, and it ends with the same totals.
The bulk requests are of the sizes that are planned for the items. -/
theorem Session.agrees_with_queued (b : Outbox α) (items : List (Pending α)) (t : Transport σ)
    (x : σ) :
    (∃ feeding closing stats failure, Intake.Serves b items t x feeding closing stats failure) ∧
      ∀ feeding closing stats failure, Intake.Serves b items t x feeding closing stats failure →
        let blocking := (Session.start b).callAll (feed items)
        let queued := (Intake.start b [items]).run (feeding ++ closing)
        queued.exchanges t x = blocking.exchanges t x ∧
          (queued.run t x).2 = (blocking.run t x).2 ∧
          (queued.run t x).1.session.notices = (blocking.run t x).1.2.notices ∧
          stats = (blocking.run t x).1.2.stats ∧
          (blocking.bulks t x).map List.length =
            (BatchPlan.mk items.length b.config.threshold).batches := by
  refine ⟨Intake.exists_serves b items t x, fun feeding closing stats failure serves => ?_⟩
  intro blocking queued
  have fed := sends_feed (s := Session.start b) (t := t) (x := x) Outbox.sends_nil rfl items
  have worked := Intake.sends_run (w := Intake.start b [items]) (t := t) (x := x) Outbox.sends_nil
    (feeding ++ closing)
  obtain ⟨batches, rfl⟩ := serves.batches_eq
  rw [batches, List.nil_append] at worked
  rw [List.nil_append] at fed
  refine ⟨worked.log.trans fed.log.symm, worked.state.trans fed.state.symm,
    worked.notices.trans fed.notices.symm, worked.stats.trans fed.stats.symm, ?_⟩
  rw [Program.bulks_eq_filterMap_exchanges]
  have sizes := b.map_length_bulks_sendAll t x fed.some
  rw [Program.bulks_eq_filterMap_exchanges] at sizes
  rw [← Pending.map_length_cut b.config.threshold_pos]
  exact (congrArg _ (congrArg _ fed.log)).trans sizes

end VersionedStore
