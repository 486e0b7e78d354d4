import VersionedStore.Proofs.Testing.Adders
import VersionedStore.Proofs.Client.Snapshot
import VersionedStore.Testing.Outage

/-!
# What a bulk load counts

Producers write notes through one session. Every note is sent in one batch, and the notes of the
batches that were answered are counted one by one. A batch that was given up counts as one failure,
that of the add which sent it, however many notes it had. So the counts add up to the number of all
notes exactly if no batch of several notes was given up.

## Main definitions

* `Delivery.answers` — what a batch was answered item by item

## Main results

* `Delivery.succeeded_outcomes`, `Delivery.failed_outcomes` — totals are counts of answers
* `BulkLoad.run_counts` — what a bulk load counts
-/

namespace VersionedStore

variable {α σ : Type}

/-! ## Answers -/

/-- Whether the answer to an item tells that it was applied. -/
def Wire.Item.isApplied (i : Wire.Item) : Bool := i.outcome.isSuccess

theorem Outbox.isSuccess_told (o : Wire.Outcome) : (told o).isSuccess = o.isSuccess := by
  rw [told, Wire.Outcome.failureKind?]
  cases o.isSuccess <;> rfl

/-- Where no update is made again, an item is applied if the answer to it says so. -/
theorem Report.Settles.isSuccess_eq {b : Outbox α} (once : b.config.retries = 0) {p : Pending α}
    {o : Wire.Outcome} {x : List Exchange} {status : Status} (h : Settles b p o x status) :
    status.isSuccess = o.isSuccess := by
  cases h with
  | told => exact Outbox.isSuccess_told o
  | retried again | failed again => exact absurd once (Nat.ne_of_gt again)

namespace Delivery

/-- What a batch was answered item by item: nothing, if it was given up. -/
def answers (d : Delivery α) : List Wire.Item :=
  if d.isLost then [] else d.reply.toOption.getD []

variable {b : Outbox α} {d : Delivery α} {ds : List (Delivery α)}

theorem outcomes_cons (d : Delivery α) (ds : List (Delivery α)) :
    outcomes (d :: ds) = d.result.toOption.toList ++ outcomes ds := by
  rw [outcomes, List.filterMap_cons]
  cases d.result <;> rfl

/-- A batch was given up, or each of its items has one answer. -/
theorem Accounted.length_answers (h : d.Accounted b) :
    d.answers.length = if d.isLost then 0 else d.batch.length := by
  cases h with
  | failed | misaligned => rfl
  | answered batch answers segments o aligned => exact aligned

/-- The reports of a batch say of each item what the answer to it says. -/
theorem Accounted.reports_eq (h : d.Accounted b) (once : b.config.retries = 0) {o : BatchOutcome}
    (answered : d.result = .ok o) :
    o.reports.map (fun r => r.status.isSuccess) = d.answers.map Wire.Item.isApplied := by
  cases h with
  | failed | misaligned => cases answered
  | answered batch answers segments o' aligned cover =>
    obtain rfl := Except.ok.inj answered
    have length : o'.reports.length = answers.length := cover.length.trans aligned.symm
    change o'.reports.map _ = answers.map _
    refine List.ext_getElem (by simpa using length) fun i hi hi' => ?_
    rw [List.length_map] at hi
    obtain ⟨p, answer, x, -, here, -, -, -, -, settles⟩ :=
      cover.each i o'.reports[i] (List.getElem?_eq_getElem hi)
    rw [List.getElem_map, List.getElem_map, settles.isSuccess_eq once, Wire.Item.isApplied,
      (List.getElem?_eq_some_iff.1 here).2]

theorem Accounted.succeeded_eq (h : d.Accounted b) (once : b.config.retries = 0) {o : BatchOutcome}
    (answered : d.result = .ok o) : o.succeeded = d.answers.countP Wire.Item.isApplied := by
  have same := congrArg (List.countP id) (h.reports_eq once answered)
  rw [List.countP_map, List.countP_map] at same
  exact (h.counted_of_ok answered).succeeded.trans same

/-- The successes of batches are the answers of items that were applied. -/
theorem succeeded_outcomes (h : ∀ d ∈ ds, d.Accounted b) (once : b.config.retries = 0) :
    BatchOutcome.total BatchOutcome.succeeded (outcomes ds) =
      (ds.flatMap answers).countP Wire.Item.isApplied := by
  induction ds with
  | nil => rfl
  | cons d ds ih =>
    obtain ⟨first, rest⟩ := List.forall_mem_cons.1 h
    rw [outcomes_cons, List.flatMap_cons, List.countP_append, ← ih rest]
    cases answer : d.result with
    | error e =>
      have none : d.answers = [] := by simp [answers, isLost, answer]
      rw [none]
      exact (Nat.zero_add _).symm
    | ok o => exact congrArg (· + _) (first.succeeded_eq once answer)

/-- The items of batches are the answers. -/
theorem items_outcomes (h : ∀ d ∈ ds, d.Accounted b) :
    BatchOutcome.total BatchOutcome.items (outcomes ds) = (ds.flatMap answers).length := by
  induction ds with
  | nil => rfl
  | cons d ds ih =>
    obtain ⟨first, rest⟩ := List.forall_mem_cons.1 h
    rw [outcomes_cons, List.flatMap_cons, List.length_append, ← ih rest, first.length_answers]
    cases answer : d.result with
    | error e =>
      simp only [isLost, answer, if_true, Nat.zero_add]
      rfl
    | ok o =>
      simp only [isLost, answer, Bool.false_eq_true, if_false]
      exact congrArg (· + _) (first.counted answer).1

/-- The failures of batches are the answers of items that were not applied. -/
theorem failed_outcomes (h : ∀ d ∈ ds, d.Accounted b) (once : b.config.retries = 0) :
    BatchOutcome.total BatchOutcome.failed (outcomes ds) =
      (ds.flatMap answers).countP fun i => !i.isApplied := by
  have whole := BatchOutcome.total_succeeded_add_failed (counted_of_mem_outcomes h)
  rw [succeeded_outcomes h once, items_outcomes h] at whole
  have split := List.length_eq_countP_add_countP Wire.Item.isApplied (l := ds.flatMap answers)
  simp only [Bool.not_eq_true] at split
  have same : (ds.flatMap answers).countP (fun i => decide (i.isApplied = false)) =
      (ds.flatMap answers).countP fun i => !i.isApplied :=
    List.countP_congr fun i _ => by cases i.isApplied <;> simp
  omega

/-- Every item has an answer, unless its batch was given up. -/
theorem length_flatMap_batch (h : ∀ d ∈ ds, d.Accounted b) :
    (ds.flatMap batch).length =
      (ds.flatMap answers).length + ((ds.filter isLost).flatMap batch).length := by
  induction ds with
  | nil => rfl
  | cons d ds ih =>
    obtain ⟨first, rest⟩ := List.forall_mem_cons.1 h
    have here := first.length_answers
    rw [List.flatMap_cons, List.flatMap_cons, List.length_append, List.length_append, ih rest, here,
      List.filter_cons]
    cases d.isLost with
    | true =>
      simp only [if_true, List.flatMap_cons, List.length_append]
      omega
    | false =>
      simp only [Bool.false_eq_true, if_false]
      omega

/-- Batches with items have as many items as there are batches exactly if each has one. -/
theorem length_flatMap_batch_eq_iff (some : ∀ d ∈ ds, d.batch ≠ []) :
    ds.length ≤ (ds.flatMap batch).length ∧
      ((ds.flatMap batch).length = ds.length ↔ ∀ d ∈ ds, d.batch.length = 1) := by
  induction ds with
  | nil => exact ⟨Nat.le_refl _, iff_of_true rfl (List.forall_mem_nil _)⟩
  | cons d ds ih =>
    obtain ⟨first, rest⟩ := List.forall_mem_cons.1 some
    obtain ⟨least, same⟩ := ih rest
    have one : 0 < d.batch.length := List.length_pos_of_ne_nil first
    rw [List.flatMap_cons, List.length_append, List.length_cons, List.forall_mem_cons, ← same]
    omega

end Delivery

/-! ## The close -/

namespace Outbox

variable {t : Transport σ} {x x' : σ} {bs : List (List (Pending α))} {log : List Exchange}

theorem flatten_asBatch (items : List (Pending α)) : (asBatch items).flatten = items := by
  by_cases none : items = []
  · subst none
    rfl
  · rw [asBatch_of_ne_nil none, List.flatten_singleton]

theorem flatten_asBatches (bs : List (List (Pending α))) :
    (bs.flatMap asBatch).flatten = bs.flatten := by
  induction bs with
  | nil => rfl
  | cons items bs ih =>
    rw [List.flatMap_cons, List.flatten_append, List.flatten_cons, ih, flatten_asBatch]

/-- A close that returns totals has sent what waited, and that was not given up. -/
theorem Sends.close {s : Session α} (h : s.outbox.Sends t x bs log x' s.stats s.notices)
    (opened : s.buffer.isSealed = false) {stats : Stats}
    (closed : (s.close.run t x').1.1 = .ok stats) :
    (∃ notices, s.outbox.Sends t x (bs ++ asBatch s.buffer.items)
        (log ++ s.close.exchanges t x') (s.close.run t x').2 stats notices) ∧
      (s.outbox.deliveries t (asBatch s.buffer.items) x').countP Delivery.isLost = 0 := by
  let sealed : Session α := { s with buffer := ⟨[], true⟩ }
  have closing : s.close =
      (sealed.send s.buffer.items).bind fun r => .done (r.1.map fun _ => r.2.stats, r.2) := by
    rw [Session.close, if_neg (Bool.eq_false_iff.1 opened)]
    rfl
  have sent := Sends.send (s := sealed) h s.buffer.items
  have came := sealed.sent_cases t x' s.buffer.items
  rw [closing, Program.run_bind] at closed
  rw [closing, Program.exchanges_bind, Program.run_bind]
  simp only [Program.run, Program.exchanges_done, List.append_nil] at closed ⊢
  generalize (sealed.send s.buffer.items).run t x' = r at closed sent came ⊢
  cases answer : r.1.1 with
  | error e =>
    rw [answer] at closed
    cases closed
  | ok o =>
    rw [answer] at closed
    obtain rfl := Except.ok.inj closed
    refine ⟨⟨_, sent⟩, ?_⟩
    obtain ⟨none, -⟩ | ⟨some, result⟩ := came
    · rw [none]
      rfl
    · have kept : (sealed.outbox.delivery t x' s.buffer.items).isLost = false := by
        rw [Delivery.isLost, ← result, answer]
      rw [asBatch_of_ne_nil some]
      simpa [deliveries] using kept

end Outbox

/-! ## Bulk loads -/

namespace BulkLoad

/-- The notes that can be encoded, and those that cannot. -/
theorem length_encoded (c : Codec Note) (l : BulkLoad) :
    ((List.range l.producers).flatMap (encoded c l)).length + unencoded c l = l.total := by
  have most (producers : List Nat) :
      (producers.flatMap (encoded c l)).length ≤ producers.length * l.items := by
    induction producers with
    | nil => exact Nat.zero_le _
    | cons p producers ih =>
      have here : (encoded c l p).length ≤ l.items :=
        Nat.le_trans (List.length_filterMap_le ..) (Nat.le_of_eq List.length_range)
      rw [List.flatMap_cons, List.length_append, List.length_cons, Nat.succ_mul]
      omega
  have fits := most (List.range l.producers)
  rw [List.length_range] at fits
  rw [unencoded, total]
  exact Nat.add_sub_cancel' fits

variable (r : Repository Note) (l : BulkLoad)

/-- Where the notes go. -/
def outbox : Outbox Note := r.outbox { batchSize := l.batchSize }

theorem crew_eq : crew r l = Crew.start (outbox r l)
    (((List.range l.producers).map (encoded r.codec l)).map (List.map SharedCall.add)) := by
  rw [crew, Crew.start, List.map_map, List.map_map]
  rfl

/-- What the counts of some batches add up to. -/
theorem tally_counts {b : Outbox α} {log : List Exchange} {stats : Stats} {notices : List Notice}
    {ds : List (Delivery α)} (accounts : b.Accounts log stats notices ds)
    (once : b.config.retries = 0) {unsent notes : Nat}
    (all : (ds.flatMap Delivery.batch).length + unsent = notes) :
    let counts := tally (unsent + ds.countP Delivery.isLost) stats
    counts.succeeded = (ds.flatMap Delivery.answers).countP Wire.Item.isApplied ∧
      counts.failed = (ds.flatMap Delivery.answers).countP (fun i => !i.isApplied) + unsent +
        ds.countP Delivery.isLost ∧
      counts.total + ((ds.filter Delivery.isLost).flatMap Delivery.batch).length =
        notes + ds.countP Delivery.isLost ∧
      (counts.total = notes ↔ ∀ d ∈ ds, d.isLost = true → d.batch.length = 1) := by
  intro counts
  have accounted := accounts.accounted
  have succeeded : counts.succeeded = (ds.flatMap Delivery.answers).countP Wire.Item.isApplied := by
    rw [← Delivery.succeeded_outcomes accounted once]
    exact congrArg Stats.succeeded accounts.totals
  have failed : counts.failed = (ds.flatMap Delivery.answers).countP (fun i => !i.isApplied) +
      unsent + ds.countP Delivery.isLost := by
    rw [← Delivery.failed_outcomes accounted once, Nat.add_assoc]
    exact congrArg (· + _) (congrArg Stats.failed accounts.totals)
  have answered : (ds.flatMap Delivery.answers).length =
      (ds.flatMap Delivery.answers).countP Wire.Item.isApplied +
        (ds.flatMap Delivery.answers).countP fun i => !i.isApplied := by
    have whole :=
      BatchOutcome.total_succeeded_add_failed (Delivery.counted_of_mem_outcomes accounted)
    rw [← Delivery.succeeded_outcomes accounted once, ← Delivery.failed_outcomes accounted once,
      ← Delivery.items_outcomes accounted, whole]
  have lengths := Delivery.length_flatMap_batch accounted
  have sum : counts.total + ((ds.filter Delivery.isLost).flatMap Delivery.batch).length =
      notes + ds.countP Delivery.isLost := by
    rw [Tally.total]
    omega
  refine ⟨succeeded, failed, sum, ?_⟩
  have some : ∀ d ∈ ds.filter Delivery.isLost, d.batch ≠ [] :=
    fun d hd => accounts.some d (List.mem_of_mem_filter hd)
  have several := (Delivery.length_flatMap_batch_eq_iff some).2
  rw [← List.countP_eq_length_filter] at several
  simp only [List.mem_filter, and_imp] at several
  rw [← several]
  omega

/-- Producers write notes by any schedule, with any transport. If the close returns, each note that
can be encoded was sent in one batch, and each item of a batch has one answer, unless the batch was
given up. The successes are the items that were applied. The failures are the items that were not,
the notes that cannot be encoded, and one for each batch that was given up. So the counts add up to
the number of all notes exactly if every batch that was given up has one note. -/
theorem run_counts (schedule : List Nat) (t : Transport σ) (x : σ) {counts : Tally} {stats : Stats}
    (returned : ((run r l schedule).run t x).1 = some (.ok (counts, stats))) :
    ∃ ds : List (Delivery Note),
      ((run r l schedule).exchanges t x).filter Exchange.isBulk = ds.map (outbox r l).exchange ∧
      (ds.flatMap Delivery.batch).Perm ((List.range l.producers).flatMap (encoded r.codec l)) ∧
      (∀ d ∈ ds, d.answers.length = if d.isLost then 0 else d.batch.length) ∧
      counts.succeeded = (ds.flatMap Delivery.answers).countP Wire.Item.isApplied ∧
      counts.failed = (ds.flatMap Delivery.answers).countP (fun i => !i.isApplied) +
        unencoded r.codec l + ds.countP Delivery.isLost ∧
      counts.total + ((ds.filter Delivery.isLost).flatMap Delivery.batch).length =
        l.total + ds.countP Delivery.isLost ∧
      (counts.total = l.total ↔ ∀ d ∈ ds, d.isLost = true → d.batch.length = 1) := by
  let calls := (List.range l.producers).map (encoded r.codec l)
  let history := (crew r l).history t schedule x
  let w := (crew r l).after t schedule x
  have loading : Crew.Loading (outbox r l) t x calls.flatten history
      (((crew r l).run schedule).exchanges t x) w.1 w.2 := by
    have start := (Crew.Loading.start (outbox r l) t x calls).run schedule
    rwa [← crew_eq, List.nil_append, List.nil_append] at start
  have orderly := Crew.start_orderly (outbox r l) (calls.map (List.map SharedCall.add))
  rw [← crew_eq] at orderly
  have leads : (crew r l).Leads history w.1 := orderly.run t x schedule
  rw [run, Program.run_bind] at returned
  rw [run, Program.exchanges_bind]
  rw [show ((crew r l).run schedule).run t x = w from rfl] at returned ⊢
  by_cases finished : w.1.producers.all Producer.isFinished = true
  swap
  · rw [if_neg finished] at returned
    cases returned
  obtain ⟨idle, offered, told⟩ := loading.finished finished
  rw [if_pos finished, Program.run_bind] at returned
  rw [if_pos finished, Program.exchanges_bind]
  simp only [Program.run, Program.exchanges_done, List.append_nil, Option.some.injEq] at returned ⊢
  cases closed : (w.1.shared.session.close.run t w.2).1.1 with
  | error e =>
    rw [closed] at returned
    cases returned
  | ok total =>
  rw [closed] at returned
  obtain ⟨rfl, rfl⟩ := Prod.mk.inj (Except.ok.inj returned)
  -- What the producers have sent, and the last batch.
  let sent := (Shared.batches history).flatMap Outbox.asBatch
  let left := Outbox.asBatch w.1.shared.session.buffer.items
  obtain ⟨⟨notices, sends⟩, kept⟩ :=
    Outbox.Sends.close (loading.outbox ▸ loading.sends) loading.opened closed
  rw [loading.outbox] at sends kept
  have batches := (outbox r l).map_batch_deliveries t x (sent ++ left)
  have refused : ((outbox r l).deliveries t (sent ++ left) x).countP Delivery.isLost =
      refusals w.1 := by
    rw [Outbox.deliveries_append, ← loading.sends.state, List.countP_append, kept, ← loading.refused,
      told]
    rfl
  have accounts := sends.accounts
  generalize (outbox r l).deliveries t (sent ++ left) x = ds at accounts batches refused
  have items : (ds.flatMap Delivery.batch).Perm calls.flatten := by
    have account := leads.account
    obtain ⟨before, -⟩ := orderly.of_idle fun q hq => by
      obtain ⟨p, -, rfl⟩ := List.mem_map.1 hq
      rfl
    rw [(leads.orderly.of_idle idle).1, before, List.append_nil] at account
    rw [List.flatMap_def, batches, List.flatten_append, Outbox.flatten_asBatches,
      Outbox.flatten_asBatch]
    exact account ▸ offered
  have all : (ds.flatMap Delivery.batch).length + unencoded r.codec l = l.total := by
    rw [items.length_eq, ← length_encoded r.codec l]
    rfl
  refine ⟨ds, accounts.bulks, items, fun d hd => (accounts.accounted d hd).length_answers, ?_⟩
  rw [← refused]
  exact tally_counts accounts rfl all

/-- Two producers with three notes each, and three notes make a batch. -/
def pairs : BulkLoad := ⟨2, 3, 3⟩

/-- The counts of that load where the first bulk request fails. -/
def interrupted : Option (Except ClientError (Tally × Stats)) :=
  ((run (Repository.notesOf "b") pairs pairs.fairSchedule).run
    (Outage.layer.above (Loopback.transport Repository.nearby))
    (⟨1⟩, ⟨Server.empty {}, none⟩)).1

private theorem interrupted_eq :
    interrupted = some (.ok (⟨2, 1⟩, { batches := 1, items := 2, succeeded := 2 })) := by
  decide +kernel

/-- Four of the six notes are in the batch that is given up, and count as one failure. -/
theorem run_counts_interrupted :
    interrupted = some (.ok (⟨2, 1⟩, { batches := 1, items := 2, succeeded := 2 })) ∧
      ∃ ds : List (Delivery Note), ds.countP Delivery.isLost = 1 ∧
        ((ds.filter Delivery.isLost).flatMap Delivery.batch).length = 4 ∧
        (ds.flatMap Delivery.batch).Perm
          ((List.range pairs.producers).flatMap (encoded (Repository.notesOf "b").codec pairs)) := by
  obtain ⟨ds, -, items, -, -, failed, sum, -⟩ := run_counts _ _ _ _ _ interrupted_eq
  have six : pairs.total = 6 := rfl
  simp only [Tally.total, six] at failed sum
  -- If no batch were given up, all notes would be counted.
  have some : ds.countP Delivery.isLost ≠ 0 := by
    intro none
    rw [List.countP_eq_length_filter, List.length_eq_zero_iff] at none
    rw [List.countP_eq_length_filter, none] at sum
    cases sum
  exact ⟨interrupted_eq, ds, by omega, by omega, items⟩

/-- The counts of a load do not always add up to the number of its notes. -/
theorem interrupted_undercounts : ∃ counts stats,
    interrupted = some (.ok (counts, stats)) ∧ counts.total = 3 ∧ pairs.total = 6 :=
  ⟨_, _, interrupted_eq, rfl, rfl⟩

end BulkLoad

end VersionedStore
