import VersionedStore.Client.Session

/-!
# Queued sessions

A queued session takes writes without sending them: they wait in a queue, and a consumer of
its own gathers them into batches of exactly one size and sends them. Closing puts a last
command at the end of the queue; what was queued before it is still sent, in a last batch that
may be smaller. A batch whose request fails is dropped and the first failure is kept.

## Main definitions

* `QueueSession` — the queue, the batch that is gathered, the totals and the first failure
* `QueueSession.push` — the producers' side
* `QueueSession.receive`, `QueueSession.finish` — the steps of the consumer
* `QueueSession.drain` — all steps that the consumer can take
* `QueueSession.close` — the last command, and the consumer's run to its end
-/

namespace VersionedStore

/-- What waits in the queue. -/
inductive Command (α : Type)
  /-- An item to be sent. -/
  | item (p : Pending α)
  /-- The end of the intake. -/
  | close

/-- A queued session. -/
structure QueueSession (α : Type) where
  /-- Where the batches go. -/
  outbox : Outbox α
  /-- The commands that wait. -/
  queue : List (Command α)
  /-- Whether the producers have been told that the session is closed. -/
  isClosed : Bool
  /-- Whether the consumer refuses further commands. -/
  refuses : Bool
  /-- The batch that is gathered. -/
  gathered : List (Pending α)
  /-- The totals of the batches that were answered. -/
  stats : Stats
  /-- The first failure of a batch. -/
  failure : Option ClientError
  /-- What was heard, in order. -/
  notices : List Notice

namespace QueueSession

variable {α : Type}

/-- A session in which nothing waits. -/
def start (outbox : Outbox α) : QueueSession α := ⟨outbox, [], false, false, [], {}, none, []⟩

/-! ### Producers -/

/-- Queues an item. -/
def push (s : QueueSession α) (p : Pending α) : Except ClientError Unit × QueueSession α :=
  if s.isClosed ∨ s.refuses then (.error .sessionClosed, s)
  else (.ok (), { s with queue := s.queue ++ [Command.item p] })

/-- Queues a document. -/
def index (s : QueueSession α) (id : Option String) (document : α) (isNew : Bool) :
    Except ClientError Unit × QueueSession α :=
  match s.outbox.codec.encode document with
  | .error e => (.error e, s)
  | .ok payload => s.push { intent := .ofDocument id payload isNew }

/-- Queues an update of a document that was read at a version. -/
def update (s : QueueSession α) (id : String) (version : Version) (document : α)
    (change : α → α) : Except ClientError Unit × QueueSession α :=
  match s.outbox.codec.encode (change document) with
  | .error e => (.error e, s)
  | .ok payload => s.push { intent := .update id version payload, change := some change }

def delete (s : QueueSession α) (id : String) (version : Option Version) :
    Except ClientError Unit × QueueSession α :=
  s.push { intent := .delete id version }

/-- Reads a document and queues an update of it. -/
def getAndUpdate (s : QueueSession α) (id : String) (change : α → α) :
    Program (Except ClientError Unit × QueueSession α) :=
  if s.isClosed ∨ s.refuses then .done (.error .sessionClosed, s)
  else
    .call (.get s.outbox.index id) fun
      | .error e => .done (.error e, s)
      | .ok none => .done (.error (.notFound id), s)
      | .ok (some current) =>
        match s.outbox.codec.decode current.source with
        | .error e => .done (.error e, s)
        | .ok document => .done (s.update id current.version document change)

/-! ### The consumer -/

/-- The session after the reply to a batch. -/
def absorb (s : QueueSession α) (batch : List (Pending α)) :
    Except ClientError BatchOutcome → QueueSession α
  | .ok o =>
    { s with
      stats := s.stats.absorb o
      notices := s.notices ++ s.outbox.config.notices batch o }
  | .error e => { s with failure := s.failure.or (some e) }

/-- Sends the batch that was gathered. -/
def send (s : QueueSession α) : Program (QueueSession α) :=
  (s.outbox.dispatch s.gathered).bind fun r => .done ({ s with gathered := [] }.absorb s.gathered r)

/-- Takes one command: an item joins the batch, which is sent when it is full; a close ends the
intake. -/
def receive (s : QueueSession α) : Command α → Program (QueueSession α)
  | .item p =>
    -- Batches are cut by the consumer, so all of them but the last are full.
    let s := { s with gathered := s.gathered ++ [p] }
    if s.outbox.config.threshold ≤ s.gathered.length then s.send else .done s
  | .close => .done { s with refuses := true }

/-- Takes commands in order. -/
def receiveAll (s : QueueSession α) : List (Command α) → Program (QueueSession α)
  | [] => .done s
  | c :: cs => (s.receive c).bind fun s => s.receiveAll cs

/-- Takes all commands that wait. -/
def drain (s : QueueSession α) : Program (QueueSession α) :=
  { s with queue := [] }.receiveAll s.queue

/-- Sends what is left after the last command. -/
def finish (s : QueueSession α) : Program (QueueSession α) :=
  if s.gathered.isEmpty then .done s else s.send

/-- Ends the intake, and lets the consumer run to its end. -/
def close (s : QueueSession α) : Program (QueueSession α) :=
  -- The last command comes after all items, so none of them is left behind.
  { s with isClosed := true, queue := s.queue ++ [Command.close] }.drain.bind finish

/-- The totals, or the first failure if there was one. -/
def total (s : QueueSession α) : Except ClientError Stats :=
  match s.failure with
  | none => .ok s.stats
  | some e => .error e

end QueueSession

end VersionedStore
