import VersionedStore.Client.Queue

/-!
# A queued session at work

Producers add items to a queued session while its consumer takes them out of the queue and someone
closes it. Each of them is a sequence of steps; the steps may come in any order, but a step is
never interrupted. The queue has room for as many commands as a batch has items, and whoever finds
it full has to wait. The consumer that has taken the last command refuses all others, and goes on
with those that are in the queue.

## Main definitions

* `Feeder` — a producer of a queued session
* `Feeder.step` — its next step, unless it has to wait
* `QueueSession.consume`, `QueueSession.shut` — the next steps of the consumer and of the close
* `Intake` — a queued session with its producers, its consumer and its close
* `Intake.run` — the steps of a schedule
-/

namespace VersionedStore

variable {α : Type}

namespace QueueSession

/-- The number of commands for which the queue has room. -/
def capacity (s : QueueSession α) : Nat := s.outbox.config.threshold

/-- Puts a command at the end of the queue. -/
def enqueue (s : QueueSession α) (c : Command α) : QueueSession α :=
  { s with queue := s.queue ++ [c] }

end QueueSession

/-! ### Producers -/

/-- A producer of a queued session. -/
structure Feeder (α : Type) where
  /-- The item whose add has begun. -/
  offered : Option (Pending α)
  /-- The items to come. -/
  todo : List (Pending α)
  /-- What the adds returned so far, in order. -/
  results : List (Except ClientError Unit)

namespace Feeder

/-- A producer before its first add. -/
def ofItems (items : List (Pending α)) : Feeder α := ⟨none, items, []⟩

/-- The producer after its add. -/
def got (f : Feeder α) (r : Except ClientError Unit) : Feeder α :=
  { f with offered := none, results := f.results ++ [r] }

/-- The next step of a producer; none if it has to wait or has nothing to do. -/
def step (s : QueueSession α) (f : Feeder α) : Option (Feeder α × QueueSession α) :=
  match f.offered, f.todo with
  | none, [] => none
  | none, p :: rest =>
    let f := { f with offered := some p, todo := rest }
    if s.isClosed ∨ s.refuses then some (f.got (.error .sessionClosed), s) else some (f, s)
  | some p, _ =>
    -- The flag is not looked at again: an add that has begun may still be accepted.
    if s.refuses then some (f.got (.error .sessionClosed), s)
    else if s.queue.length < s.capacity then some (f.got (.ok ()), s.enqueue (.item p))
    else none

end Feeder

/-! ### The consumer and the close -/

/-- Where the consumer stands. -/
inductive ConsumerStage
  /-- It takes commands, and sends a batch when it is full. -/
  | receiving
  /-- Nothing will come any more. -/
  | finishing
  | ended
deriving DecidableEq

/-- Where the close stands. -/
inductive ClosingStage
  /-- It was not called. -/
  | calling
  /-- No add is begun any more; the last command wants room in the queue. -/
  | telling
  /-- The consumer is waited for. -/
  | joining
  /-- The close has returned the totals, and the first failure if there was one. -/
  | returned (stats : Stats) (failure : Option ClientError)
deriving DecidableEq

namespace QueueSession

/-- The next step of the consumer; none if it has to wait or has ended. -/
def consume (s : QueueSession α) :
    ConsumerStage → Option (Program (ConsumerStage × QueueSession α))
  | .receiving =>
    if s.outbox.config.threshold ≤ s.gathered.length then
      some (s.send.bind fun s => .done (.receiving, s))
    else
      match s.queue with
      | .item p :: rest =>
        some (.done (.receiving, { s with queue := rest, gathered := s.gathered ++ [p] }))
      | .close :: rest => some (.done (.receiving, { s with queue := rest, refuses := true }))
      | [] => if s.refuses then some (.done (.finishing, s)) else none
  | .finishing => some (s.finish.bind fun s => .done (.ended, s))
  | .ended => none

/-- The next step of the close; none if it has to wait or has returned. -/
def shut (s : QueueSession α) (consumer : ConsumerStage) :
    ClosingStage → Option (ClosingStage × QueueSession α)
  | .calling => some (.telling, { s with isClosed := true })
  | .telling =>
    if s.refuses then some (.joining, s)
    else if s.queue.length < s.capacity then some (.joining, s.enqueue .close)
    else none
  | .joining =>
    if consumer = .ended then some (.returned s.stats s.failure, s) else none
  | .returned .. => none

end QueueSession

/-! ### All together -/

/-- A queued session with its producers, its consumer and its close. -/
structure Intake (α : Type) where
  session : QueueSession α
  /-- The producers. -/
  feeders : List (Feeder α)
  consumer : ConsumerStage
  closing : ClosingStage

namespace Intake

/-- Whose step it is. -/
inductive Actor
  | feeder (i : Nat)
  | consumer
  | closer
deriving DecidableEq

/-- Producers with their items, before anything has happened. -/
def start (outbox : Outbox α) (items : List (List (Pending α))) : Intake α :=
  ⟨.start outbox, items.map .ofItems, .receiving, .calling⟩

/-- The next step of someone; nothing happens if he has to wait or has nothing to do. -/
def step (w : Intake α) : Actor → Program (Intake α)
  | .feeder i =>
    match w.feeders[i]?.bind (Feeder.step w.session) with
    | none => .done w
    | some (f, s) => .done { w with session := s, feeders := w.feeders.set i f }
  | .consumer =>
    match w.session.consume w.consumer with
    | none => .done w
    | some next => next.bind fun r => .done { w with session := r.2, consumer := r.1 }
  | .closer =>
    match w.session.shut w.consumer w.closing with
    | none => .done w
    | some (stage, s) => .done { w with session := s, closing := stage }

/-- The steps of a schedule. -/
def run (w : Intake α) : List Actor → Program (Intake α)
  | [] => .done w
  | a :: rest => (w.step a).bind fun w => w.run rest

end Intake

end VersionedStore
