import VersionedStore.Client.Intent
import VersionedStore.Wire.Item

/-!
# Reports

The fate of every item of a batch is reported in the order of the batch, and the batches of a
session add up to its totals.

## Main definitions

* `Report.Status`, `Report` — the fate of an item
* `BatchOutcome`, `BatchOutcome.record` — the reports of a batch, counted as they come
* `Stats` — the totals of a session
-/

namespace VersionedStore

/-- The fate of an item. -/
inductive Report.Status
  /-- The batch applied it. -/
  | succeeded (version : Option Version)
  /-- It met a conflict and was applied by an update of its own. -/
  | retried (attempts : Nat) (version : Version)
  /-- It was not applied. -/
  | failed (kind : FailureKind) (reason : String)
deriving DecidableEq

namespace Report.Status

/-- Whether the item was applied. -/
def isSuccess : Report.Status → Bool
  | failed .. => false
  | _ => true

/-- Whether the item was applied by an update of its own. -/
def isRetried : Report.Status → Bool
  | retried .. => true
  | _ => false

end Report.Status

/-- The report of an item. -/
structure Report where
  /-- The place of the item in its batch, from zero. -/
  position : Nat
  /-- What the item was to do. -/
  kind : Intent.Kind
  /-- The id of the document, if it is known. -/
  id : Option String
  /-- The fate of the item. -/
  status : Report.Status
deriving DecidableEq

/-- The outcome of a batch: the reports in its order, with their counts. -/
structure BatchOutcome where
  /-- The number of items that were applied. -/
  succeeded : Nat := 0
  /-- The number of items that were not applied. -/
  failed : Nat := 0
  /-- The number of items that were applied by an update of their own. -/
  retried : Nat := 0
  reports : List Report := []
deriving DecidableEq

namespace BatchOutcome

/-- The outcome of a batch without items. -/
def empty : BatchOutcome := {}

/-- Records a report. -/
def record (o : BatchOutcome) (r : Report) : BatchOutcome :=
  let o := { o with reports := o.reports ++ [r] }
  match r.status with
  | .succeeded _ => { o with succeeded := o.succeeded + 1 }
  -- An item that was applied by an update of its own is counted twice.
  | .retried .. => { o with succeeded := o.succeeded + 1, retried := o.retried + 1 }
  | .failed .. => { o with failed := o.failed + 1 }

/-- The outcome of a batch whose reports are recorded one after the other. -/
def ofReports (reports : List Report) : BatchOutcome := reports.foldl record empty

/-- The number of items. -/
def items (o : BatchOutcome) : Nat := o.reports.length

/-- Whether all items were applied. -/
def isClean (o : BatchOutcome) : Bool := o.failed == 0

/-- The reports of the items that were not applied. -/
def failures (o : BatchOutcome) : List Report := o.reports.filter fun r => !r.status.isSuccess

/-- The counts of an outcome are those of its reports. -/
structure Counted (o : BatchOutcome) : Prop where
  succeeded : o.succeeded = o.reports.countP fun r => r.status.isSuccess
  failed : o.failed = o.reports.countP fun r => !r.status.isSuccess
  retried : o.retried = o.reports.countP fun r => r.status.isRetried

variable {o : BatchOutcome}

theorem reports_record (o : BatchOutcome) (r : Report) :
    (o.record r).reports = o.reports ++ [r] := by
  cases h : r.status <;> simp [record, h]

theorem counted_empty : empty.Counted := ⟨rfl, rfl, rfl⟩

theorem Counted.record (h : o.Counted) (r : Report) : (o.record r).Counted := by
  obtain ⟨succeeded, failed, retried⟩ := h
  constructor
  all_goals
    rw [reports_record, List.countP_append]
    cases hs : r.status <;>
      simp [BatchOutcome.record, hs, succeeded, failed, retried, Report.Status.isSuccess,
        Report.Status.isRetried]

theorem foldl_record (o : BatchOutcome) (h : o.Counted) (rs : List Report) :
    (rs.foldl record o).reports = o.reports ++ rs ∧ (rs.foldl record o).Counted := by
  induction rs generalizing o with
  | nil => exact ⟨(List.append_nil _).symm, h⟩
  | cons r rs ih =>
    obtain ⟨reports, counted⟩ := ih (o.record r) (h.record r)
    rw [reports_record, List.append_assoc] at reports
    exact ⟨reports, counted⟩

@[simp] theorem reports_ofReports (rs : List Report) : (ofReports rs).reports = rs :=
  (foldl_record empty counted_empty rs).1

/-- However many reports are recorded, the counts are theirs. -/
theorem counted_ofReports (rs : List Report) : (ofReports rs).Counted :=
  (foldl_record empty counted_empty rs).2

@[simp] theorem succeeded_ofReports (rs : List Report) :
    (ofReports rs).succeeded = rs.countP fun r => r.status.isSuccess := by
  rw [(counted_ofReports rs).succeeded, reports_ofReports]

@[simp] theorem failed_ofReports (rs : List Report) :
    (ofReports rs).failed = rs.countP fun r => !r.status.isSuccess := by
  rw [(counted_ofReports rs).failed, reports_ofReports]

@[simp] theorem retried_ofReports (rs : List Report) :
    (ofReports rs).retried = rs.countP fun r => r.status.isRetried := by
  rw [(counted_ofReports rs).retried, reports_ofReports]

@[simp] theorem items_ofReports (rs : List Report) : (ofReports rs).items = rs.length := by
  rw [items, reports_ofReports]

/-- Every item was applied or not. -/
theorem Counted.succeeded_add_failed (h : o.Counted) : o.succeeded + o.failed = o.items := by
  rw [h.succeeded, h.failed, items]
  induction o.reports with
  | nil => rfl
  | cons r rs ih => cases h : r.status.isSuccess <;> simp [h] <;> omega

theorem Counted.retried_le_succeeded (h : o.Counted) : o.retried ≤ o.succeeded := by
  rw [h.succeeded, h.retried]
  refine List.countP_mono_left fun r _ h => ?_
  cases hs : r.status <;> simp_all [Report.Status.isRetried, Report.Status.isSuccess]

end BatchOutcome

/-- The totals of a session. -/
structure Stats where
  /-- The batches that were answered. -/
  batches : Nat := 0
  items : Nat := 0
  /-- The items that were applied. -/
  succeeded : Nat := 0
  /-- The items that were not applied. -/
  failed : Nat := 0
  /-- The items that were applied by an update of their own. -/
  retried : Nat := 0
deriving DecidableEq, Inhabited

/-- The totals with one more batch. -/
def Stats.absorb (s : Stats) (o : BatchOutcome) : Stats where
  batches := s.batches + 1
  items := s.items + o.items
  succeeded := s.succeeded + o.succeeded
  failed := s.failed + o.failed
  retried := s.retried + o.retried

end VersionedStore
