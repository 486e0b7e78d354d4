import VersionedStore.Client.Session

/-!
# A session shared by producers

Several producers call one session at the same time. A call is a sequence of steps; the steps
of different producers may come in any order, but a step is never interrupted. The buffer can
be appended to at any time; taking from it, sealing it and sending a batch happen under a lock
that one producer holds at a time.

## Main definitions

* `Shared` — a session with the holder of its lock
* `SharedCall`, `SharedResult` — what a producer asks for and gets
* `Stage` — where a call stands
* `Shared.step` — the next step of a call, unless it has to wait
* `Crew` — a shared session with its producers
* `Crew.run` — the steps of a schedule
-/

namespace VersionedStore

variable {α : Type}

/-- A session with the holder of its lock. -/
structure Shared (α : Type) where
  session : Session α
  /-- The producer that holds the lock. -/
  holder : Option Nat

/-- What a producer asks for. -/
inductive SharedCall (α : Type)
  | add (p : Pending α)
  | flush
  | close

/-- What a producer gets. -/
inductive SharedResult
  | added (r : Except ClientError Unit)
  | flushed (r : Except ClientError BatchOutcome)
  | closed (r : Except ClientError Stats)

/-- What a batch is sent for. -/
inductive Purpose
  | add
  | flush
  | close
deriving DecidableEq

/-- Where a call stands. -/
inductive Stage (α : Type)
  /-- Nothing was done. -/
  | calling (c : SharedCall α)
  /-- An item was appended that may make a batch; the lock is wanted. -/
  | crossing
  /-- The lock is held; the length of the buffer is looked at again. -/
  | checking
  /-- The lock is held; all items are taken out. -/
  | taking (purpose : Purpose)
  /-- The lock is held; the buffer is sealed. -/
  | sealing
  /-- The lock is held; a batch is sent. -/
  | sending (purpose : Purpose) (batch : List (Pending α))
  /-- The lock is held; it is given back. -/
  | leaving (r : SharedResult)
  /-- The call is over. -/
  | returned (r : SharedResult)

namespace Shared

/-- The session with other contents. -/
def withBuffer (s : Shared α) (buffer : Buffer (Pending α)) : Shared α :=
  { s with session := { s.session with buffer } }

/-- The number of waiting items that makes a batch. -/
def threshold (s : Shared α) : Nat := s.session.outbox.config.threshold

/-- Takes the lock and goes on, if no one holds it. -/
def acquire? (s : Shared α) (i : Nat) (next : Stage α) : Option (Program (Stage α × Shared α)) :=
  match s.holder with
  | none => some (.done (next, { s with holder := some i }))
  | some _ => none

/-- Appends an item. -/
def append (s : Shared α) (p : Pending α) : Stage α × Shared α :=
  match s.session.buffer.append? p with
  | none => (.returned (.added (.error .sessionClosed)), s)
  -- An item is appended without the lock; only who sends a batch has to wait for it.
  | some buffer =>
    (if s.threshold ≤ buffer.size then .crossing else .returned (.added (.ok ())),
      s.withBuffer buffer)

/-- The result of a call that sent a batch. -/
def sentResult (stats : Stats) (r : Except ClientError BatchOutcome) : Purpose → SharedResult
  | .add => .added (r.map fun _ => ())
  | .flush => .flushed r
  | .close => .closed (r.map fun _ => stats)

/-- Seals the buffer, if it is not sealed. -/
def sealBuffer (s : Shared α) : Stage α × Shared α :=
  if s.session.buffer.isSealed then (.leaving (.closed (.ok s.session.stats)), s)
  else (.sending .close s.session.buffer.close.1, s.withBuffer s.session.buffer.close.2)

/-- The next step of a call of producer `i`; none if it has to wait or is over. -/
def step (s : Shared α) (i : Nat) : Stage α → Option (Program (Stage α × Shared α))
  | .calling (.add p) => some (.done (s.append p))
  | .calling .flush => s.acquire? i (.taking .flush)
  | .calling .close => s.acquire? i .sealing
  | .crossing => s.acquire? i .checking
  | .checking =>
    -- Someone else may have sent the batch while this producer waited.
    let next := if s.threshold ≤ s.session.buffer.size then .taking .add
      else .leaving (.added (.ok ()))
    some (.done (next, s))
  | .taking purpose =>
    let taken := s.session.buffer.take
    some (.done (.sending purpose taken.1, s.withBuffer taken.2))
  | .sealing => some (.done s.sealBuffer)
  | .sending purpose batch =>
    some ((s.session.send batch).bind fun r =>
      .done (.leaving (sentResult r.2.stats r.1 purpose), { s with session := r.2 }))
  | .leaving r => some (.done (.returned r, { s with holder := none }))
  | .returned _ => none

end Shared

/-! ### Producers -/

/-- A producer: the call it is in, the calls to come, and what it got so far. -/
structure Producer (α : Type) where
  /-- Where its call stands, if it is in one. -/
  stage : Option (Stage α)
  /-- The calls to come. -/
  todo : List (SharedCall α)
  /-- What it got so far, in order. -/
  results : List SharedResult

namespace Producer

/-- A producer before its first call. -/
def ofCalls (calls : List (SharedCall α)) : Producer α := ⟨none, calls, []⟩

/-- Where the call stands that the producer is in or is about to make. -/
def current? (p : Producer α) : Option (Stage α) :=
  p.stage.or (p.todo.head?.map .calling)

/-- The producer at a stage of its call. -/
def moveTo (p : Producer α) (st : Stage α) : Producer α :=
  -- The first step of a call takes it off the list.
  let todo := if p.stage.isSome then p.todo else p.todo.tail
  match st with
  | .returned r => ⟨none, todo, p.results ++ [r]⟩
  | st => ⟨some st, todo, p.results⟩

/-- Whether nothing is left to do. -/
def isFinished (p : Producer α) : Bool := p.stage.isNone && p.todo.isEmpty

end Producer

/-- A shared session with its producers. -/
structure Crew (α : Type) where
  /-- The session. -/
  shared : Shared α
  producers : List (Producer α)

namespace Crew

/-- The crew after a step of one producer. -/
def moved (c : Crew α) (i : Nat) (p : Producer α) (r : Stage α × Shared α) : Crew α :=
  ⟨r.2, c.producers.set i (p.moveTo r.1)⟩

/-- The next step of producer `i`; nothing happens if it has to wait or is finished. -/
def step (c : Crew α) (i : Nat) : Program (Crew α) :=
  match c.producers[i]? with
  | none => .done c
  | some p =>
    match p.current?.bind (c.shared.step i) with
    | none => .done c
    | some next => next.bind fun r => .done (c.moved i p r)

/-- The steps of a schedule. -/
def run (c : Crew α) : List Nat → Program (Crew α)
  | [] => .done c
  | i :: rest => (c.step i).bind fun c => c.run rest

/-- A schedule in which all of `n` producers take a step, `rounds` times. -/
def roundRobin (n rounds : Nat) : List Nat := (List.replicate rounds (List.range n)).flatten

end Crew

end VersionedStore
