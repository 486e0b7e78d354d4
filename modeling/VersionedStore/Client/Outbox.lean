import VersionedStore.Client.Report
import VersionedStore.Client.Update

/-!
# Batches on their way

A batch is sent as one bulk request. The reply holds one outcome per item; an update that met
a conflict is made again from a fresh read if the session allows it, and every other outcome
is final. Whoever watches an item hears its report first, then whoever watches the session.

## Main definitions

* `SessionConfig` — size of the batches, attempts of conflicting updates, visibility
* `Outbox` — where the batches of a session go
* `Outbox.verdict` — what the outcome of an item means for it
* `Outbox.dispatch` — the program that sends a batch
* `Notice`, `SessionConfig.notices` — who hears what of a batch
-/

namespace VersionedStore

/-- How a session works. -/
structure SessionConfig where
  /-- The number of waiting items that makes a batch; none counts as one. -/
  batchSize : Nat := 100
  /-- The attempts of an update that met a conflict; with none it fails. -/
  retries : Nat := 0
  /-- When the writes of a batch become visible. -/
  refresh : RefreshPolicy := .waitFor
  /-- Whether someone watches the whole session. -/
  watched : Bool := false
deriving DecidableEq

namespace SessionConfig

/-- The number of waiting items that makes a batch, at least one. -/
def threshold (c : SessionConfig) : Nat := max 1 c.batchSize

def describeRefresh : RefreshPolicy → Description
  | .none => .word "None"
  | .waitFor => .word "WaitFor"
  | .immediate => .word "Immediate"

/-- A description of a configuration. -/
def describe (c : SessionConfig) : Description :=
  .record "BulkConfig"
    [("batch_size", .number c.batchSize), ("retry_conflicting_updates", .number c.retries),
      ("refresh", describeRefresh c.refresh), ("item_callback", .bool c.watched)]

end SessionConfig

/-- What someone hears of an item. -/
inductive Notice
  /-- Whoever watches the item. -/
  | toItem (report : Report)
  /-- Whoever watches the session. -/
  | toSession (report : Report)
deriving DecidableEq

/-- The report that is heard. -/
def Notice.report : Notice → Report
  | toItem r => r
  | toSession r => r

/-- Where the batches of a session go. -/
structure Outbox (α : Type) where
  /-- How documents are written and read. -/
  codec : Codec α
  index : String
  /-- How the session works. -/
  config : SessionConfig

/-- What the outcome of an item means for it. -/
inductive Verdict (α : Type)
  /-- Its fate is known. -/
  | final (status : Report.Status)
  /-- Its update is made again. -/
  | again (id : String) (change : α → α)

variable {α : Type}

namespace Outbox

/-- The reason of a failure; the status if no cause is told. -/
def reason (o : Wire.Outcome) : String :=
  if o.failureMessage = "" then s!"status {Decimal.text o.status.toNat}" else o.failureMessage

/-- The update behind an item, if it can be made again. -/
def revision? (p : Pending α) : Option (String × (α → α)) :=
  match p.intent, p.change with
  | .update id _ _, some change => some (id, change)
  | _, _ => none

/-- What the outcome of an item means for it. -/
def verdict (retries : Nat) (p : Pending α) (o : Wire.Outcome) : Verdict α :=
  match o.failureKind? with
  | none => .final (.succeeded o.version)
  | some kind =>
    match revision? p with
    -- Only a conflict can be cured by a fresh read.
    | some (id, change) =>
      if kind = .conflict ∧ 0 < retries then .again id change else .final (.failed kind (reason o))
    | none => .final (.failed kind (reason o))

/-- The updates that are made again: they do not wait for visibility. -/
def updater (b : Outbox α) : Updater α := ⟨b.codec, b.index, .none, b.config.retries⟩

/-- The fate of an item whose update was made again. -/
def retriedStatus : Except ClientError Updated → Report.Status
  | .ok u => .retried u.attempts u.acknowledgement.version
  | .error e => .failed e.failureKind e.message

/-- The fate of an item. -/
def settle (b : Outbox α) (p : Pending α) (o : Wire.Outcome) : Program Report.Status :=
  match verdict b.config.retries p o with
  | .final status => .done status
  | .again id change => (b.updater.update id change).bind fun r => .done (retriedStatus r)

/-- The report of an item. The store may know an id that the item does not. -/
def report (position : Nat) (p : Pending α) (o : Wire.Outcome) (status : Report.Status) : Report :=
  ⟨position, p.intent.kind, o.id.or p.intent.id?, status⟩

/-- The reports of the items of a batch, in order. -/
def settleAll (b : Outbox α) (position : Nat) :
    List (Pending α × Wire.Item) → Program (List Report)
  | [] => .done []
  | (p, i) :: rest =>
    (b.settle p i.outcome).bind fun status =>
      (b.settleAll (position + 1) rest).bind fun reports =>
        .done (report position p i.outcome status :: reports)

/-- Sends a batch. Without items there is nothing to send. Sessions that block and queued ones, which
wait for replies while others go on, send their batches by the same steps, so this is the program of
both. -/
def dispatch (b : Outbox α) (batch : List (Pending α)) :
    Program (Except ClientError BatchOutcome) :=
  if batch.isEmpty then .done (.ok .empty)
  else
    .call (.bulk b.index (batch.map fun p => p.intent.action) b.config.refresh) fun
      | .error e => .done (.error e)
      | .ok answers =>
        -- Outcomes belong to items by their places alone.
        if answers.length = batch.length then
          (b.settleAll 0 (batch.zip answers)).bind fun reports =>
            .done (.ok (.ofReports reports))
        else .done (.error (.answer (.misaligned answers.length batch.length)))

end Outbox

/-- What is heard of an item. -/
def SessionConfig.noticesOf (c : SessionConfig) (p : Pending α) (r : Report) : List Notice :=
  (if p.watched then [.toItem r] else []) ++ (if c.watched then [.toSession r] else [])

/-- What is heard of a batch. -/
def SessionConfig.notices (c : SessionConfig) (batch : List (Pending α)) (o : BatchOutcome) :
    List Notice :=
  (batch.zip o.reports).flatMap fun e => c.noticesOf e.1 e.2

end VersionedStore
