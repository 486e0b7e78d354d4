import VersionedStore.Client.Buffer
import VersionedStore.Client.Outbox

/-!
# Bulk sessions

A session gathers writes and sends them in batches: as soon as enough of them wait, when it is
flushed, and when it is closed. A batch whose request fails is dropped. After the close no
write is taken.

Here every call on the session runs to its end before the next one; what happens when several
producers share a session is the subject of `Client.Shared`.

## Main definitions

* `Session` — the waiting items, the totals and what was heard
* `Session.add`, `Session.flush`, `Session.close` — the calls
* `Session.index`, `Session.update`, `Session.getAndUpdate`, `Session.delete` — the writes
-/

namespace VersionedStore

/-- A session. -/
structure Session (α : Type) where
  /-- Where the batches go. -/
  outbox : Outbox α
  /-- The items that wait. -/
  buffer : Buffer (Pending α)
  /-- The totals of the batches that were answered. -/
  stats : Stats
  /-- What was heard, in order. -/
  notices : List Notice

/-- The intent of a document that is indexed: with an id it is put in place of what is there,
unless it is to be new. -/
def Intent.ofDocument (id : Option String) (payload : Bytes) (isNew : Bool) : Intent :=
  match id, isNew with
  | some id, false => .upsert id payload
  | id, _ => .create id payload

namespace Session

variable {α : Type}

/-- A session in which nothing waits. -/
def start (outbox : Outbox α) : Session α := ⟨outbox, .empty, {}, []⟩

/-- The session after an answered batch. -/
def absorb (s : Session α) (batch : List (Pending α)) (o : BatchOutcome) : Session α :=
  if batch.isEmpty then s
  else
    { s with
      stats := s.stats.absorb o
      notices := s.notices ++ s.outbox.config.notices batch o }

/-- Sends a batch that has been taken out of the buffer. -/
def send (s : Session α) (batch : List (Pending α)) :
    Program (Except ClientError BatchOutcome × Session α) :=
  (s.outbox.dispatch batch).bind fun
    -- The items of a failed request are gone: they are neither counted nor sent again.
    | .error e => .done (.error e, s)
    | .ok o => .done (.ok o, s.absorb batch o)

/-- Sends all that waits. -/
def flush (s : Session α) : Program (Except ClientError BatchOutcome × Session α) :=
  { s with buffer := s.buffer.take.2 }.send s.buffer.take.1

/-- Takes an item, and sends all that waits if that makes a batch. -/
def add (s : Session α) (p : Pending α) : Program (Except ClientError Unit × Session α) :=
  match s.buffer.append? p with
  | none => .done (.error .sessionClosed, s)
  | some buffer =>
    let s := { s with buffer }
    if s.outbox.config.threshold ≤ buffer.size then
      s.flush.bind fun r => .done (r.1.map fun _ => (), r.2)
    else .done (.ok (), s)

/-- Takes no more items and sends what waits. A second close does nothing. -/
def close (s : Session α) : Program (Except ClientError Stats × Session α) :=
  if s.buffer.isSealed then .done (.ok s.stats, s)
  else
    -- The buffer is sealed before the last batch is sent, and stays so if that fails.
    ({ s with buffer := s.buffer.close.2 }.send s.buffer.close.1).bind fun r =>
      .done (r.1.map fun _ => r.2.stats, r.2)

/-- Lets go of a session; one that is not closed is closed first. -/
def drop (s : Session α) : Program (Session α) := s.close.bind fun r => .done r.2

/-- Whether the session takes no more items. -/
def isClosed (s : Session α) : Bool := s.buffer.isSealed

/-- The number of items that wait. -/
def waiting (s : Session α) : Nat := s.buffer.size

/-! ### Writes -/

def index (s : Session α) (id : Option String) (document : α) (isNew : Bool) :
    Program (Except ClientError Unit × Session α) :=
  match s.outbox.codec.encode document with
  | .error e => .done (.error e, s)
  | .ok payload => s.add { intent := .ofDocument id payload isNew }

/-- Updates a document that was read at a version. -/
def update (s : Session α) (id : String) (version : Version) (document : α) (change : α → α) :
    Program (Except ClientError Unit × Session α) :=
  match s.outbox.codec.encode (change document) with
  | .error e => .done (.error e, s)
  | .ok payload => s.add { intent := .update id version payload, change := some change }

/-- Reads a document and updates it. -/
def getAndUpdate (s : Session α) (id : String) (change : α → α) :
    Program (Except ClientError Unit × Session α) :=
  -- A closed session does not even read.
  if s.isClosed then .done (.error .sessionClosed, s)
  else
    .call (.get s.outbox.index id) fun
      | .error e => .done (.error e, s)
      | .ok none => .done (.error (.notFound id), s)
      | .ok (some current) =>
        match s.outbox.codec.decode current.source with
        | .error e => .done (.error e, s)
        | .ok document => s.update id current.version document change

/-- Deletes a document. -/
def delete (s : Session α) (id : String) (version : Option Version) :
    Program (Except ClientError Unit × Session α) :=
  s.add { intent := .delete id version }

end Session

end VersionedStore
