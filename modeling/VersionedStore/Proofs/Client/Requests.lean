import VersionedStore.Client.Session

/-!
# The bulk requests of a program

What reaches a transport are the calls of a program. A session makes its bulk requests by sending
batches and in no other way: a batch of items is one request, a batch without items is none, and
the updates that are made again read and write single documents.

## Main definitions

* `Program.calls`, `Program.exchanges` — the calls of a run of a program, and with their replies
* `Program.bulks` — the bulk requests among them
* `Pending.requests` — the bulk requests of a batch
* `Outbox.conflicting?`, `Outbox.told` — which items are made again, and the fate of the others

## Main results

* `Outbox.bulks_dispatch` — the bulk requests of the sending of a batch
-/

namespace VersionedStore

/-- The actions of a bulk request. -/
def Call.bulk? : Call → Option (List Action)
  | .bulk _ actions _ => some actions
  | _ => none

/-- A call with its reply. -/
abbrev Exchange : Type := (c : Call) × c.Reply

variable {α β σ : Type}

namespace Program

/-- The calls that a program makes when it runs against a transport. -/
def calls (t : Transport σ) : Program α → σ → List Call
  | .done _, _ => []
  | .call c next, s => c :: (next (t c s).1).calls t (t c s).2

/-- The bulk requests that a program makes. -/
def bulks (t : Transport σ) (p : Program α) (s : σ) : List (List Action) :=
  (p.calls t s).filterMap Call.bulk?

/-- The calls that a program makes when it runs against a transport, with their replies. -/
def exchanges (t : Transport σ) : Program α → σ → List Exchange
  | .done _, _ => []
  | .call c next, s => ⟨c, (t c s).1⟩ :: (next (t c s).1).exchanges t (t c s).2

variable (t : Transport σ) (s : σ)

@[simp] theorem calls_done (a : α) : (done a).calls t s = [] := rfl

@[simp] theorem bulks_done (a : α) : (done a).bulks t s = [] := rfl

theorem calls_bind (p : Program α) (f : α → Program β) :
    (p.bind f).calls t s = p.calls t s ++ (f (p.run t s).1).calls t (p.run t s).2 := by
  induction p generalizing s with
  | done a => rfl
  | call c next ih => simp only [bind, calls, run, ih, List.cons_append]

theorem bulks_bind (p : Program α) (f : α → Program β) :
    (p.bind f).bulks t s = p.bulks t s ++ (f (p.run t s).1).bulks t (p.run t s).2 := by
  rw [bulks, calls_bind, List.filterMap_append]
  rfl

theorem bulks_call (c : Call) (next : c.Reply → Program α) :
    (call c next).bulks t s =
      (Call.bulk? c).toList ++ (next (t c s).1).bulks t (t c s).2 := by
  rw [bulks, calls, List.filterMap_cons]
  cases c.bulk? <;> rfl

@[simp] theorem exchanges_done (a : α) : (done a).exchanges t s = [] := rfl

theorem exchanges_bind (p : Program α) (f : α → Program β) :
    (p.bind f).exchanges t s =
      p.exchanges t s ++ (f (p.run t s).1).exchanges t (p.run t s).2 := by
  induction p generalizing s with
  | done a => rfl
  | call c next ih => simp only [bind, exchanges, run, ih, List.cons_append]

theorem calls_eq_map_exchanges (p : Program α) :
    p.calls t s = (p.exchanges t s).map Sigma.fst := by
  induction p generalizing s with
  | done a => rfl
  | call c next ih => simp only [calls, exchanges, ih, List.map_cons]

end Program

theorem SessionConfig.threshold_pos (c : SessionConfig) : 0 < c.threshold :=
  Nat.le_max_left 1 c.batchSize

/-- The bulk requests of a batch: without items there is nothing to send. -/
def Pending.requests (batch : List (Pending α)) : List (List Action) :=
  if batch.isEmpty then [] else [batch.map fun p => p.intent.action]

@[simp] theorem Pending.requests_nil : requests ([] : List (Pending α)) = [] := rfl

/-- The item that deletes a document, whatever its version is. -/
def Pending.deletion (id : String) : Pending Unit := { intent := .delete id none }

/-- Whatever is heard of an item is its report. -/
theorem SessionConfig.report_of_mem_noticesOf (config : SessionConfig) {p : Pending α} {r : Report}
    {n : Notice} (h : n ∈ config.noticesOf p r) : n.report = r := by
  rw [noticesOf, List.mem_append] at h
  obtain h | h := h
  all_goals
    split at h
    · rw [List.mem_singleton.1 h]
      rfl
    · cases h

variable (t : Transport σ) (s : σ)

/-- Updates are reads and single writes. -/
theorem Updater.bulks_rounds (u : Updater α) (id : String) (change : α → α) (left : Nat)
    (a : Attempts) : (u.rounds id change left a).bulks t s = [] := by
  induction left generalizing a s with
  | zero => rfl
  | succ left ih =>
    rw [rounds, Program.bulks_call]
    split
    · rfl
    · rfl
    · split
      · rfl
      · rw [Program.bulks_call]
        split
        · rfl
        · split
          · exact ih _ _
          · rfl
        · rfl

namespace Outbox

/-- The update behind an item, if it met a conflict and can be made again. -/
def conflicting? (p : Pending α) (o : Wire.Outcome) : Option (String × (α → α)) :=
  if o.failureKind? = some .conflict then revision? p else none

/-- The fate of an item that is not made again. -/
def told (o : Wire.Outcome) : Report.Status :=
  match o.failureKind? with
  | none => .succeeded o.version
  | some kind => .failed kind (reason o)

variable (b : Outbox α)

section Settle

variable {p : Pending α} {o : Wire.Outcome}

theorem settle_of_calm (calm : conflicting? p o = none) : b.settle p o = .done (told o) := by
  unfold conflicting? at calm
  rw [settle, verdict, told]
  cases kind : o.failureKind? with
  | none => rfl
  | some kind' =>
    cases revision : revision? p with
    | none => rfl
    | some r =>
      -- The update could be made again, so this is another failure.
      have other : kind' ≠ .conflict := by
        rintro rfl
        rw [if_pos kind, revision] at calm
        cases calm
      simp only [other, false_and, if_false]

/-- Without attempts of its own no item is made again. -/
theorem settle_of_once (once : b.config.retries = 0) : b.settle p o = .done (told o) := by
  rw [settle, verdict, told, once]
  cases o.failureKind? with
  | none => rfl
  | some kind =>
    cases revision? p with
    | none => rfl
    | some r => simp only [Nat.lt_irrefl, and_false, if_false]

theorem settle_of_conflicting (again : 0 < b.config.retries) {id : String} {change : α → α}
    (conflict : conflicting? p o = some (id, change)) :
    b.settle p o =
      (b.updater.update id change).bind fun r => .done (retriedStatus r) := by
  unfold conflicting? at conflict
  split at conflict
  · next kind =>
    rw [settle, verdict, kind]
    simp only [conflict, again, and_self, if_true]
  · cases conflict

end Settle

theorem bulks_settle (p : Pending α) (o : Wire.Outcome) : (b.settle p o).bulks t s = [] := by
  rw [settle]
  split
  · rfl
  · rw [Program.bulks_bind, Updater.update, Updater.bulks_rounds]
    rfl

theorem bulks_settleAll (position : Nat) (answered : List (Pending α × Wire.Item)) :
    (b.settleAll position answered).bulks t s = [] := by
  induction answered generalizing position s with
  | nil => rfl
  | cons entry rest ih =>
    rw [settleAll, Program.bulks_bind, bulks_settle, Program.bulks_bind, ih]
    rfl

/-- A batch is sent in one bulk request, whatever becomes of it. -/
theorem bulks_dispatch (batch : List (Pending α)) :
    (b.dispatch batch).bulks t s = Pending.requests batch := by
  rw [dispatch, Pending.requests]
  split
  · rfl
  · rw [Program.bulks_call]
    split
    · rfl
    · split
      · rw [Program.bulks_bind, bulks_settleAll]
        rfl
      · rfl

end Outbox

namespace Session

variable (x : Session α) (batch : List (Pending α))

theorem bulks_send : (x.send batch).bulks t s = Pending.requests batch := by
  rw [send, Program.bulks_bind, Outbox.bulks_dispatch]
  split <;> exact List.append_nil _

/-- The sending of a batch leaves alone what waits, and where batches go. -/
theorem run_send_kept :
    ((x.send batch).run t s).1.2.buffer = x.buffer ∧
      ((x.send batch).run t s).1.2.outbox = x.outbox := by
  rw [send, Program.run_bind]
  split
  · exact ⟨rfl, rfl⟩
  · simp only [Program.run, absorb]
    split <;> exact ⟨rfl, rfl⟩

end Session

end VersionedStore
