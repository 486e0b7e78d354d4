import VersionedStore.Client.Interleave
import VersionedStore.Client.Repository
import VersionedStore.Client.Shared
import VersionedStore.Data.Binary64.Fixed
import VersionedStore.Testing.Note

/-!
# Stress

Many producers write notes through one session, or many clients increment one counter. Every
write and every update is counted as a success or a failure. The order of the steps is a
schedule; where a schedule leaves someone unfinished there is no result.

## Main definitions

* `Tally` — the numbers of successes and failures
* `Tally.perSecond` — how many there were in a second
* `BulkLoad` — producers, their notes, and the size of the batches
* `BulkLoad.run` — the producers on one session, and its close
* `Increments.run` — increments of one counter by many clients
-/

namespace VersionedStore

/-- Numbers of successes and failures. -/
structure Tally where
  /-- The successes. -/
  succeeded : Nat := 0
  /-- The failures. -/
  failed : Nat := 0
deriving DecidableEq

namespace Tally

/-- Successes and failures. -/
def total (t : Tally) : Nat := t.succeeded + t.failed

/-- One more result. -/
def count {α : Type} (t : Tally) : Except ClientError α → Tally
  | .ok _ => { t with succeeded := t.succeeded + 1 }
  | .error _ => { t with failed := t.failed + 1 }

/-- The results of two tallies together. -/
def add (t u : Tally) : Tally := ⟨t.succeeded + u.succeeded, t.failed + u.failed⟩

/-- A duration in seconds: the whole seconds and the rest are rounded, and so is their sum. -/
def seconds (d : Duration) : Binary64 :=
  let whole := Binary64.ofNat d.seconds
  (whole.add? ((Binary64.ofNat d.subsecond).div (.ofNat 1000000000))).getD whole

/-- How many results there were in a second; zero if no time passed. -/
def perSecond (t : Tally) (elapsed : Duration) : Binary64 :=
  if (seconds elapsed).significand = 0 then .zero else (Binary64.ofNat t.total).div (seconds elapsed)

end Tally

/-! ### Producers on one session -/

/-- Producers, their notes, and the size of the batches. -/
structure BulkLoad where
  producers : Nat := 4
  /-- The number of notes of every producer. -/
  items : Nat := 250
  batchSize : Nat := 32
deriving DecidableEq

namespace BulkLoad

/-- The number of notes of all producers. -/
def total (l : BulkLoad) : Nat := l.producers * l.items

/-- The id of a note. -/
def documentId (producer item : Nat) : String :=
  s!"p{Decimal.text producer}-{Decimal.padded 5 item}"

def note (producer item : Nat) : Note :=
  ⟨s!"producer {Decimal.text producer} item {Decimal.text item}", 0⟩

/-- The waiting item of a note. -/
def pending (c : Codec Note) (producer item : Nat) : Except ClientError (Pending Note) :=
  (c.encode (note producer item)).map fun payload =>
    { intent := .ofDocument (some (documentId producer item)) payload false }

/-- The notes of a producer as waiting items, as far as they can be encoded. -/
def encoded (c : Codec Note) (l : BulkLoad) (producer : Nat) : List (Pending Note) :=
  (List.range l.items).filterMap fun item => (pending c producer item).toOption

/-- The number of notes that cannot be encoded. -/
def unencoded (c : Codec Note) (l : BulkLoad) : Nat :=
  l.total - ((List.range l.producers).flatMap (encoded c l)).length

/-- The producers on a session of a repository. -/
def crew (r : Repository Note) (l : BulkLoad) : Crew Note where
  shared := ⟨r.session { batchSize := l.batchSize }, none⟩
  producers := (List.range l.producers).map fun p =>
    .ofCalls ((encoded r.codec l p).map SharedCall.add)

/-- Whether a result is a refusal to take an item. -/
def isRefusal : SharedResult → Bool
  | .added (.error _) => true
  | _ => false

/-- The number of items that were refused. -/
def refusals (c : Crew Note) : Nat :=
  (c.producers.flatMap (·.results)).countP isRefusal

/-- What the closed session and the refusals add up to. -/
def tally (refused : Nat) (s : Stats) : Tally := ⟨s.succeeded, s.failed + refused⟩

/-- Lets the producers add their notes by a schedule, then closes the session. -/
def run (r : Repository Note) (l : BulkLoad) (schedule : List Nat) :
    Program (Option (Except ClientError (Tally × Stats))) :=
  ((crew r l).run schedule).bind fun c =>
    if c.producers.all Producer.isFinished then
      c.shared.session.close.bind fun closed =>
        .done (some (closed.1.map fun s => (tally (unencoded r.codec l + refusals c) s, s)))
    else .done none

/-- A schedule that lets all producers finish: an add has at most seven steps, and whoever
waits for the lock waits for a step of someone else. -/
def fairSchedule (l : BulkLoad) : List Nat := Crew.roundRobin l.producers (7 * l.total)

end BulkLoad

/-! ### Clients of one counter -/

namespace Increments

/-- A number of increments of a counter, one after the other. -/
def client (r : Repository Note) (id : String) : (n : Nat) → Tally → Program Tally
  | 0, t => .done t
  | n + 1, t => (r.update id Note.incremented).bind fun u => client r id n (t.count u)

/-- The tallies of all clients together, if all are done. -/
def together (clients : List (Program Tally)) : Option Tally :=
  (clients.mapM Program.result?).map fun ts => ts.foldl Tally.add {}

/-- Lets clients increment a counter by a schedule. -/
def run {σ : Type} (t : Transport σ) (r : Repository Note) (id : String) (clients n : Nat)
    (schedule : List Nat) (s : σ) : Option Tally × σ :=
  let ran := Program.interleave t schedule (List.replicate clients (client r id n {})) s
  (together ran.1, ran.2)

/-- A schedule that lets the clients run one after the other: undisturbed, an increment has at
most two calls. -/
def oneByOne (clients n : Nat) : List Nat :=
  (List.range clients).flatMap (List.replicate (2 * n))

end Increments

end VersionedStore
