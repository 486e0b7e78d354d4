import VersionedStore.Proofs.Client.Shared
import VersionedStore.Proofs.Data.Place

/-!
# Producers on one session

Any number of producers make their calls on one session, their steps in any order and whatever the
transport answers. No item is lost, sent twice or sent out of order; a batch is as large as it has
to be, and larger only by the items of producers that wait for the lock; and after a close nothing
waits and nothing is sent.

## Main definitions

* `Crew.start` — producers before their first calls
* `Crew.waiting`, `Crew.inHand` — the items that wait, and those that were taken and not sent yet
* `Crew.history` — what happened to the items in a run
* `Crew.Orderly` — what holds between the steps

## Main results

* `Crew.Orderly.step`, `Crew.Orderly.run` — every run keeps a crew orderly
* `Crew.account` — the items of a run are accounted for
-/

namespace VersionedStore

variable {α σ : Type}

/-! ## Producers and their stages -/

namespace Producer

variable {q : Producer α} {st : Stage α}

/-- Whether it holds the lock. -/
def holds (q : Producer α) : Bool := q.stage.elim false Stage.holds

/-- Whether it added an item for which a batch may still have to be sent. -/
def isSurplus (q : Producer α) : Bool := q.stage.elim false Stage.isSurplus

/-- The items that it took and did not send yet. -/
def batch (q : Producer α) : List (Pending α) := q.stage.elim [] Stage.batch

/-- Whether a close of it has returned. -/
def HasClosed (q : Producer α) : Prop := ∃ r, SharedResult.closed r ∈ q.results

theorem stage_moveTo (q : Producer α) (st : Stage α) : (q.moveTo st).stage = st.underWay? := by
  cases st <;> rfl

/-- A result is one from before, or the one of the call that is over now. -/
theorem results_moveTo {q : Producer α} {st : Stage α} {r : SharedResult}
    (h : r ∈ (q.moveTo st).results) : r ∈ q.results ∨ st = .returned r := by
  cases st with
  | returned r' =>
    obtain before | now := List.mem_append.1 h
    · exact .inl before
    · exact .inr (by rw [List.mem_singleton.1 now])
  | _ => exact .inl h

/-- A call that is about to begin has nothing in its hands. -/
theorem elim_stage {β : Type} {d : β} {g : Stage α → β} (calling : ∀ c, g (.calling c) = d)
    (h : q.current? = some st) : q.stage.elim d g = g st := by
  rw [current?] at h
  cases hq : q.stage with
  | some st' =>
    rw [hq] at h
    exact congrArg g (Option.some.inj h)
  | none =>
    rw [hq, Option.none_or, Option.map_eq_some_iff] at h
    obtain ⟨c, -, rfl⟩ := h
    exact (calling c).symm

/-- Nor has a call that is over. -/
theorem elim_underWay {β : Type} {d : β} {g : Stage α → β} (returned : ∀ r, g (.returned r) = d)
    (st : Stage α) : st.underWay?.elim d g = g st := by
  cases st with
  | returned r => exact (returned r).symm
  | _ => rfl

theorem holds_of_current (h : q.current? = some st) : q.holds = st.holds :=
  elim_stage (fun _ => rfl) h

theorem holds_moveTo (q : Producer α) (st : Stage α) : (q.moveTo st).holds = st.holds := by
  rw [holds, stage_moveTo]
  exact elim_underWay (fun _ => rfl) st

theorem isSurplus_of_current (h : q.current? = some st) : q.isSurplus = st.isSurplus :=
  elim_stage (fun _ => rfl) h

theorem isSurplus_moveTo (q : Producer α) (st : Stage α) :
    (q.moveTo st).isSurplus = st.isSurplus := by
  rw [isSurplus, stage_moveTo]
  exact elim_underWay (fun _ => rfl) st

theorem batch_of_current (h : q.current? = some st) : q.batch = st.batch :=
  elim_stage (fun _ => rfl) h

theorem batch_moveTo (q : Producer α) (st : Stage α) : (q.moveTo st).batch = st.batch := by
  rw [batch, stage_moveTo]
  exact elim_underWay (fun _ => rfl) st

/-- Who does not hold the lock has no batch in hand. -/
theorem batch_of_not_holds (h : q.holds = false) : q.batch = [] := by
  rw [holds] at h
  rw [batch]
  cases hq : q.stage with
  | none => rfl
  | some st =>
    rw [hq] at h
    cases st with
    | sending => cases h
    | _ => rfl

end Producer

/-! ## What happens in a run -/

namespace Crew

/-- A crew before the first call. -/
def start (outbox : Outbox α) (calls : List (List (SharedCall α))) : Crew α :=
  ⟨⟨.start outbox, none⟩, calls.map .ofCalls⟩

/-- The items that wait. -/
def waiting (c : Crew α) : List (Pending α) := c.shared.waiting

/-- The items that were taken and are not sent yet. -/
def inHand (c : Crew α) : List (Pending α) := c.producers.flatMap Producer.batch

/-- Whether no one is inside a call. -/
def Idle (c : Crew α) : Prop := ∀ q ∈ c.producers, q.stage = none

/-- Whether a close has returned. -/
def HasClosed (c : Crew α) : Prop := ∃ q ∈ c.producers, q.HasClosed

/-- What the next step of producer `i` means for the items. -/
def events (c : Crew α) (i : Nat) : List (Shared.Event α) :=
  (c.producers[i]?.bind Producer.current?).elim [] c.shared.events

/-- The crew and the transport after a schedule. -/
def after (t : Transport σ) (c : Crew α) (schedule : List Nat) (x : σ) : Crew α × σ :=
  (c.run schedule).run t x

/-- What happened to the items in a run. -/
def history (t : Transport σ) (c : Crew α) : List Nat → σ → List (Shared.Event α)
  | [], _ => []
  | i :: rest, x => c.events i ++ history t ((c.step i).run t x).1 rest ((c.step i).run t x).2

variable (t : Transport σ) (x : σ) {c : Crew α} {i : Nat}

theorem after_cons (c : Crew α) (i : Nat) (rest : List Nat) :
    c.after t (i :: rest) x =
      ((c.step i).run t x).1.after t rest ((c.step i).run t x).2 :=
  Program.run_bind ..

/-- A step does nothing, or it is a step of the call that a producer is in. -/
theorem step_cases (c : Crew α) (i : Nat) :
    (c.step i = .done c ∧ c.events i = []) ∨
      ∃ q st next, c.producers[i]? = some q ∧ q.current? = some st ∧
        c.shared.step i st = some next ∧ c.events i = c.shared.events st ∧
        c.step i = next.bind fun r => .done (c.moved i q r) := by
  rw [step, events]
  cases hq : c.producers[i]? with
  | none => exact .inl ⟨rfl, rfl⟩
  | some q =>
    cases hst : q.current? with
    | none => exact .inl ⟨by simp [hst], by simp [hst]⟩
    | some st =>
      cases hnext : c.shared.step i st with
      | none => exact .inl ⟨by simp [hst, hnext], by simp [hst, Shared.events_of_waits hnext]⟩
      | some next => exact .inr ⟨q, st, next, rfl, hst, hnext, by simp [hst], by simp [hst, hnext]⟩

/-- The bulk requests of a step are those of the batch that is sent in it. -/
theorem bulks_step (c : Crew α) (i : Nat) :
    (c.step i).bulks t x = (Shared.batches (c.events i)).flatMap Pending.requests := by
  obtain ⟨idle, none⟩ | ⟨q, st, next, -, -, hnext, events, steps⟩ := c.step_cases i
  · rw [idle, none]
    rfl
  · rw [steps, events, Program.bulks_bind, Program.bulks_done, List.append_nil,
      Shared.bulks_step hnext]

/-! ## Between the steps -/

/-- How many producers added an item for which a batch may still have to be sent. -/
def surplus (c : Crew α) : Nat := c.producers.countP Producer.isSurplus

/-- What holds of a crew between the steps. -/
structure Orderly (c : Crew α) : Prop where
  /-- The lock is held by its holder alone. -/
  lock : ∀ i q, c.producers[i]? = some q → (c.shared.holder = some i ↔ q.holds = true)
  /-- Every call is sure of what it does. -/
  assured : ∀ q ∈ c.producers, ∀ st, q.stage = some st →
    c.shared.Assured c.producers.length st
  /-- For every item too many in the buffer, someone is about to send a batch. -/
  bounded : c.waiting.length < c.shared.threshold + c.surplus
  /-- A closed session has nothing to send. -/
  drained : c.shared.isClosed = true → c.waiting = []
  /-- After a close no one has a batch in hand. -/
  quiet : c.HasClosed → c.shared.isClosed = true ∧ c.inHand = []

variable {q : Producer α} {st st' : Stage α} {s' : Shared α}

theorem surplus_le (c : Crew α) : c.surplus ≤ c.producers.length := List.countP_le_length

theorem Orderly.length_waiting_lt (h : c.Orderly) :
    c.waiting.length < c.shared.threshold + c.producers.length :=
  Nat.lt_of_lt_of_le h.bounded (Nat.add_le_add_left c.surplus_le _)

/-- The stage of the producer that makes a step is one at which it is sure of what it does. -/
theorem Orderly.assured_current (h : c.Orderly) (hq : c.producers[i]? = some q)
    (hst : q.current? = some st) : c.shared.Assured c.producers.length st := by
  rw [Producer.current?] at hst
  cases stage : q.stage with
  | some st' =>
    rw [stage] at hst
    obtain rfl := Option.some.inj hst
    exact h.assured q (List.mem_of_getElem? hq) _ stage
  | none =>
    rw [stage, Option.none_or, Option.map_eq_some_iff] at hst
    obtain ⟨call, -, rfl⟩ := hst
    trivial

/-- If a producer holds the lock, no one else does. -/
theorem Orderly.apart (h : c.Orderly) (hq : c.producers[i]? = some q) {j : Nat}
    {q' : Producer α} (hq' : c.producers[j]? = some q') (hne : j ≠ i) :
    q.holds = false ∨ q'.holds = false := by
  by_contra! both
  obtain ⟨mine, yours⟩ := both
  have here := (h.lock i q hq).2 (by simpa using mine)
  rw [(h.lock j q' hq').2 (by simpa using yours)] at here
  exact hne (Option.some.inj here)

/-! ### A step -/

section Moved

variable (hq : c.producers[i]? = some q)

include hq

/-- Where only one producer can have a batch in hand, that batch is what is in hand. -/
theorem inHand_eq_batch (others : ∀ j q', j ≠ i → c.producers[j]? = some q' → q'.batch = []) :
    c.inHand = q.batch := by
  obtain ⟨before, after, split, length, -⟩ := split_of_getElem? hq
  have first : before.flatMap Producer.batch = [] := by
    refine List.flatMap_eq_nil_iff.2 fun q' hq' => ?_
    obtain ⟨j, hj⟩ := List.getElem?_of_mem hq'
    have lt : j < before.length := (List.getElem?_eq_some_iff.1 hj).1
    refine others j q' (by omega) ?_
    rw [split, List.getElem?_append_left lt, hj]
  have last : after.flatMap Producer.batch = [] := by
    refine List.flatMap_eq_nil_iff.2 fun q' hq' => ?_
    obtain ⟨j, hj⟩ := List.getElem?_of_mem hq'
    refine others (i + 1 + j) q' (by omega) ?_
    rw [split, List.getElem?_append_right (by omega), ← hj, length,
      show i + 1 + j - i = j + 1 by omega, List.getElem?_cons_succ]
  rw [inHand, split, List.flatMap_append, List.flatMap_cons, first, last, List.append_nil,
    List.nil_append]

/-- After a step the others are where they were. -/
theorem moved_cases {r : Stage α × Shared α} {j : Nat} {q' : Producer α}
    (hq' : (c.moved i q r).producers[j]? = some q') :
    (j = i ∧ q' = q.moveTo r.1) ∨ (j ≠ i ∧ c.producers[j]? = some q') := by
  rw [moved] at hq'
  exact getElem?_set_cases hq hq'

variable (hst : q.current? = some st)

include hst

theorem surplus_moved (st' : Stage α) (s' : Shared α) :
    (c.moved i q (st', s')).surplus + st.isSurplus.toNat = c.surplus + st'.isSurplus.toNat := by
  obtain ⟨before, after, split, -, set⟩ := split_of_getElem? hq
  rw [surplus, surplus, moved, set, split]
  simp only [List.countP_append, List.countP_cons, Producer.isSurplus_moveTo,
    Producer.isSurplus_of_current hst]
  cases st.isSurplus <;> cases st'.isSurplus <;>
    simp [Bool.toNat_true, Bool.toNat_false] <;> omega

theorem inHand_moved_of_batch (free : st.batch = []) (kept : st'.batch = []) :
    (c.moved i q (st', s')).inHand = c.inHand := by
  obtain ⟨before, after, split, -, set⟩ := split_of_getElem? hq
  rw [inHand, inHand, moved, set, split]
  simp only [List.flatMap_append, List.flatMap_cons, Producer.batch_moveTo,
    Producer.batch_of_current hst, free, kept]

variable (h : c.Orderly)

include h

/-- Whoever holds the lock has in hand what is in hand, before its step and after it. -/
theorem Orderly.inHand_of_holds (holding : st.holds = true) :
    c.inHand = st.batch ∧ (c.moved i q (st', s')).inHand = st'.batch := by
  -- A batch is in hand only while its producer holds the lock.
  have others : ∀ j q', j ≠ i → c.producers[j]? = some q' → q'.batch = [] := by
    intro j q' hne hq'
    obtain mine | yours := h.apart hq hq' hne
    · rw [Producer.holds_of_current hst, holding] at mine
      cases mine
    · exact Producer.batch_of_not_holds yours
  refine ⟨(inHand_eq_batch hq others).trans (Producer.batch_of_current hst), ?_⟩
  have lt : i < c.producers.length := (List.getElem?_eq_some_iff.1 hq).1
  have mine : (c.moved i q (st', s')).producers[i]? = some (q.moveTo st') :=
    List.getElem?_set_self lt
  refine (inHand_eq_batch mine fun j q' hne hq' => ?_).trans (Producer.batch_moveTo q st')
  obtain ⟨here, -⟩ | ⟨-, hq'⟩ := moved_cases hq hq'
  · exact absurd here hne
  · exact others j q' hne hq'

variable (did : c.shared.Step i st st' s')

include did

/-- A step of a crew neither loses nor makes up items, nor does it change their order. -/
theorem Orderly.account_moved :
    (Shared.batches (c.shared.events st)).flatten ++ (c.moved i q (st', s')).inHand ++ s'.waiting =
      c.inHand ++ c.waiting ++ Shared.accepted (c.shared.events st) := by
  have account := did.account
  -- Only the holder of the lock moves a batch; without the lock a step leaves all hands alone.
  cases holding : st.holds with
  | true =>
    obtain ⟨before, after⟩ : c.inHand = st.batch ∧ (c.moved i q (st', s')).inHand = st'.batch :=
      h.inHand_of_holds hq hst holding
    rw [before, after]
    exact account
  | false =>
    obtain ⟨none, free, kept⟩ := did.of_free holding
    rw [none, free, kept] at account
    rw [inHand_moved_of_batch hq hst free kept, none, List.append_assoc, List.append_assoc]
    exact congrArg (c.inHand ++ ·) account

theorem Orderly.lock_moved {j : Nat} {q' : Producer α}
    (hq' : (c.moved i q (st', s')).producers[j]? = some q') :
    s'.holder = some j ↔ q'.holds = true := by
  have held : q.holds = st.holds := Producer.holds_of_current hst
  have mine := h.lock i q hq
  obtain ⟨rfl, rfl⟩ | ⟨hne, hq'⟩ := moved_cases hq hq'
  · rw [Producer.holds_moveTo]
    obtain ⟨same, kept⟩ | ⟨-, taken, -, now⟩ | ⟨-, given, free⟩ := did.lock
    · rw [kept, mine, held, same]
    · simp [now, taken]
    · simp [free, given]
  · have yours := h.lock j q' hq'
    obtain ⟨-, kept⟩ | ⟨-, -, free, now⟩ | ⟨holding, -, free⟩ := did.lock
    · rw [kept, yours]
    · rw [← yours, free, now]
      simp [hne.symm]
    · rw [← yours, free, mine.2 (held.trans holding)]
      simp [hne.symm]

theorem Orderly.assured_moved {q' : Producer α} (hq' : q' ∈ (c.moved i q (st', s')).producers)
    {other : Stage α} (hother : q'.stage = some other) :
    s'.Assured c.producers.length other := by
  obtain ⟨j, hj⟩ := List.getElem?_of_mem hq'
  obtain ⟨rfl, rfl⟩ | ⟨hne, hj⟩ := moved_cases hq hj
  · have after := did.assured (h.assured_current hq hst) h.length_waiting_lt
    rw [Producer.stage_moveTo] at hother
    cases st' with
    | returned r => cases hother
    | _ => exact Option.some.inj hother ▸ after
  · refine did.assured_other ?_ (h.assured q' (List.mem_of_getElem? hj) other hother)
    obtain mine | yours := h.apart hq hj hne
    · exact .inl ((Producer.holds_of_current hst).symm.trans mine)
    · refine .inr ?_
      rw [Producer.holds, hother] at yours
      exact yours

theorem Orderly.bounded_moved :
    s'.waiting.length < s'.threshold + (c.moved i q (st', s')).surplus := by
  have before := h.bounded
  have counted := surplus_moved hq hst st' s'
  rw [did.threshold_eq]
  -- The buffer is below the threshold, or no fuller than before, or has one item more, and then the
  -- producer of that item is one more who is about to send a batch.
  obtain few | ⟨same, goesOn⟩ | ⟨more, fresh, crossed⟩ := did.waiting_cases
  · omega
  · rw [same]
    cases hs : st.isSurplus with
    | true =>
      rw [goesOn hs, hs] at counted
      exact Nat.add_right_cancel counted ▸ before
    | false =>
      rw [hs, Bool.toNat_false] at counted
      rw [waiting] at before
      omega
  · rw [fresh, crossed, Bool.toNat_false, Bool.toNat_true] at counted
    rw [waiting] at before
    omega

theorem Orderly.quiet_moved (closed : (c.moved i q (st', s')).HasClosed) :
    s'.isClosed = true ∧ (c.moved i q (st', s')).inHand = [] := by
  by_cases already : c.HasClosed
  · -- Nothing is taken in, nothing waits and nothing is in hand, so nothing can come into a hand.
    obtain ⟨sealed, empty⟩ := h.quiet already
    have account := h.account_moved hq hst did
    rw [empty, h.drained sealed, Shared.accepted_of_isClosed sealed] at account
    simp only [List.append_nil, List.append_eq_nil_iff] at account
    exact ⟨did.isClosed_of_isClosed sealed, account.1.2⟩
  · -- It is in this step that a close returns.
    obtain ⟨q', hq', r, hr⟩ := closed
    obtain ⟨j, hj⟩ := List.getElem?_of_mem hq'
    obtain ⟨-, rfl⟩ | ⟨-, hj⟩ := moved_cases hq hj
    · obtain earlier | rfl := Producer.results_moveTo hr
      · exact absurd ⟨q, List.mem_of_getElem? hq, r, earlier⟩ already
      · obtain rfl := did.of_closed
        have sealed := h.assured_current hq hst r rfl
        exact ⟨did.isClosed_of_isClosed sealed, (h.inHand_of_holds hq hst rfl).2⟩
    · exact absurd ⟨q', List.mem_of_getElem? hj, r, hr⟩ already

theorem Orderly.moved : (c.moved i q (st', s')).Orderly where
  lock _ _ hq' := h.lock_moved hq hst did hq'
  assured q' hq' other hother := by
    rw [Crew.moved, List.length_set]
    exact h.assured_moved hq hst did hq' hother
  bounded := h.bounded_moved hq hst did
  drained := did.drained h.drained
  quiet := h.quiet_moved hq hst did

end Moved

/-! ### A run -/

/-- What leads from one crew to another while certain things happen to the items. -/
structure Leads (c : Crew α) (es : List (Shared.Event α)) (c' : Crew α) : Prop where
  orderly : c'.Orderly
  /-- What was in hand, waited or was taken in was sent, or is in hand, or waits. -/
  account : (Shared.batches es).flatten ++ c'.inHand ++ c'.waiting =
    c.inHand ++ c.waiting ++ Shared.accepted es
  outbox : c'.shared.session.outbox = c.shared.session.outbox
  crowd : c'.producers.length = c.producers.length
  /-- A batch is not larger than the crowd can make it, and that of an add is large enough. -/
  sizes : ∀ purpose batch, .sent purpose batch ∈ es →
    batch.length < c.shared.threshold + c.producers.length ∧
      (purpose = .add → c.shared.threshold ≤ batch.length)
  /-- A closed session stays closed, and nothing is taken in. -/
  closed : c.shared.isClosed = true → c'.shared.isClosed = true ∧ Shared.accepted es = []

theorem Leads.nil (h : c.Orderly) : c.Leads [] c :=
  ⟨h, (List.append_nil _).symm, rfl, rfl, nofun, fun sealed => ⟨sealed, rfl⟩⟩

theorem Leads.append {c' c'' : Crew α} {es es' : List (Shared.Event α)} (first : c.Leads es c')
    (next : c'.Leads es' c'') : c.Leads (es ++ es') c'' where
  orderly := next.orderly
  account := by
    calc (Shared.batches (es ++ es')).flatten ++ c''.inHand ++ c''.waiting
      _ = (Shared.batches es).flatten ++
            ((Shared.batches es').flatten ++ c''.inHand ++ c''.waiting) := by
        simp [Shared.batches_append]
      _ = (Shared.batches es).flatten ++ c'.inHand ++ c'.waiting ++ Shared.accepted es' := by
        simp [next.account]
      _ = c.inHand ++ c.waiting ++ Shared.accepted (es ++ es') := by
        simp [first.account, Shared.accepted_append]
  outbox := next.outbox.trans first.outbox
  crowd := next.crowd.trans first.crowd
  sizes purpose batch sent := by
    have same : c'.shared.threshold = c.shared.threshold := by
      rw [Shared.threshold, Shared.threshold, first.outbox]
    obtain before | after := List.mem_append.1 sent
    · exact first.sizes purpose batch before
    · have sizes := next.sizes purpose batch after
      rwa [same, first.crowd] at sizes
  closed sealed := by
    obtain ⟨stillSealed, none⟩ := first.closed sealed
    obtain ⟨atLast, noneLater⟩ := next.closed stillSealed
    exact ⟨atLast, by rw [Shared.accepted_append, none, noneLater, List.append_nil]⟩

variable (t : Transport σ) (x : σ)

theorem Orderly.step (h : c.Orderly) (i : Nat) :
    c.Leads (c.events i) ((c.step i).run t x).1 := by
  obtain ⟨idle, none⟩ | ⟨q, st, next, hq, hst, hnext, events, steps⟩ := c.step_cases i
  · rw [idle, none]
    exact .nil h
  · have did := Shared.step_cases hnext t x
    rw [steps, events, Program.run_bind]
    refine ⟨h.moved hq hst did, h.account_moved hq hst did, did.outbox_eq, List.length_set, ?_,
      fun sealed => ⟨did.isClosed_of_isClosed sealed, Shared.accepted_of_isClosed sealed st⟩⟩
    intro purpose batch sent
    obtain rfl := Shared.eq_sending_of_mem sent
    have sure := h.assured_current hq hst
    exact ⟨sure.1, sure.2.1⟩

/-- Every run keeps a crew orderly and accounts for the items. -/
theorem Orderly.run (h : c.Orderly) (schedule : List Nat) :
    c.Leads (c.history t schedule x) (c.after t schedule x).1 := by
  induction schedule generalizing c x with
  | nil => exact .nil h
  | cons i rest ih =>
    have first := h.step t x i
    rw [after_cons, history]
    exact first.append (ih _ first.orderly)

/-- The bulk requests of a run are those of the batches that are sent. -/
theorem bulks_run (c : Crew α) (schedule : List Nat) :
    (c.run schedule).bulks t x =
      (Shared.batches (c.history t schedule x)).flatMap Pending.requests := by
  induction schedule generalizing c x with
  | nil => rfl
  | cons i rest ih =>
    rw [run, Program.bulks_bind, ih, history, Shared.batches_append, List.flatMap_append,
      bulks_step]

/-- Once a close has returned, nothing waits, nothing is taken in and nothing is sent. -/
theorem Leads.of_closed {c' : Crew α} {es : List (Shared.Event α)} (h : c.Leads es c')
    (orderly : c.Orderly) (closed : c.HasClosed) :
    c'.shared.isClosed = true ∧ c'.waiting = [] ∧ ∀ batch ∈ Shared.batches es, batch = [] := by
  obtain ⟨sealed, empty⟩ := orderly.quiet closed
  obtain ⟨stillSealed, none⟩ := h.closed sealed
  have account := h.account
  rw [empty, orderly.drained sealed, none] at account
  simp only [List.append_nil, List.append_eq_nil_iff, List.flatten_eq_nil_iff] at account
  exact ⟨stillSealed, account.2, account.1.1⟩

theorem start_orderly (outbox : Outbox α) (calls : List (List (SharedCall α))) :
    (start outbox calls).Orderly := by
  have fresh : ∀ q ∈ (start outbox calls).producers, q.stage = none ∧ q.results = [] := by
    intro q hq
    obtain ⟨todo, -, rfl⟩ := List.mem_map.1 hq
    exact ⟨rfl, rfl⟩
  refine ⟨fun i q hq => ?_, fun q hq st hst => ?_, ?_, fun _ => rfl, ?_⟩
  · simp [start, Producer.holds, (fresh q (List.mem_of_getElem? hq)).1]
  · rw [(fresh q hq).1] at hst
    cases hst
  · exact Nat.lt_of_lt_of_le outbox.config.threshold_pos (Nat.le_add_right ..)
  · rintro ⟨q, hq, r, hr⟩
    rw [(fresh q hq).2] at hr
    cases hr

/-- An add on a closed session is refused. -/
theorem step_add_of_isClosed {q : Producer α} {p : Pending α} (hq : c.producers[i]? = some q)
    (add : q.current? = some (.calling (.add p))) (closed : c.shared.isClosed = true) :
    c.step i = .done (c.moved i q (.returned (.added (.error .sessionClosed)), c.shared)) := by
  simp only [step, hq, add, Option.bind_some, Shared.step, Shared.append_of_isClosed closed,
    Program.bind]

theorem Orderly.of_idle (h : c.Orderly) (idle : c.Idle) :
    c.inHand = [] ∧ c.waiting.length < c.shared.threshold := by
  have empty : c.inHand = [] := by
    refine List.flatMap_eq_nil_iff.2 fun q hq => ?_
    rw [Producer.batch, idle q hq]
    rfl
  have none : c.surplus = 0 := by
    refine List.countP_eq_zero.2 fun q hq => ?_
    rw [Producer.isSurplus, idle q hq]
    exact Bool.false_ne_true
  exact ⟨empty, by simpa [none] using h.bounded⟩

/-- Producers on one session, their steps in any order, with any transport. The batches that are
sent, then the batch in hand and the items that wait, are the items that were taken in, in their
order; every batch with items is one bulk request. A batch that an add sends has at least as many
items as make a batch, and no batch has more than one item too many for each producer but one. When
no one is inside a call, fewer items wait than make a batch. Once a close has returned, nothing
waits, no bulk request is made and every add is refused. -/
theorem items_accounted (outbox : Outbox α) (calls : List (List (SharedCall α)))
    (schedule : List Nat) :
    let crew := start outbox calls
    let history := crew.history t schedule x
    let r := crew.after t schedule x
    (Shared.batches history).flatten ++ r.1.inHand ++ r.1.waiting = Shared.accepted history ∧
      (crew.run schedule).bulks t x = (Shared.batches history).flatMap Pending.requests ∧
      (∀ batch, .sent .add batch ∈ history → outbox.config.threshold ≤ batch.length) ∧
      (∀ batch ∈ Shared.batches history,
        batch.length ≤ outbox.config.threshold - 1 + calls.length) ∧
      (r.1.Idle → r.1.inHand = [] ∧ r.1.waiting.length < outbox.config.threshold) ∧
      (r.1.HasClosed → ∀ rest,
        let later := r.1.after t rest r.2
        later.1.waiting = [] ∧ (r.1.run rest).bulks t r.2 = [] ∧
          ∀ i q p, later.1.producers[i]? = some q → q.current? = some (.calling (.add p)) →
            later.1.step i = .done (later.1.moved i q
              (.returned (.added (.error .sessionClosed)), later.1.shared))) := by
  intro crew history r
  have leads : crew.Leads history r.1 := (start_orderly outbox calls).run t x schedule
  have threshold : r.1.shared.threshold = outbox.config.threshold := by
    rw [Shared.threshold, leads.outbox]
    rfl
  have crowd : crew.producers.length = calls.length := List.length_map ..
  refine ⟨?_, bulks_run t x crew schedule, ?_, ?_, ?_, ?_⟩
  · have nothing : crew.inHand = [] :=
      ((start_orderly outbox calls).of_idle fun q hq => by
        obtain ⟨todo, -, rfl⟩ := List.mem_map.1 hq
        rfl).1
    rw [leads.account, nothing]
    rfl
  · exact fun batch sent => (leads.sizes .add batch sent).2 rfl
  · intro batch hbatch
    obtain ⟨e, he, hbatch⟩ := List.mem_filterMap.1 hbatch
    cases e with
    | accepted p => cases hbatch
    | sent purpose batch' =>
      obtain rfl := Option.some.inj hbatch
      have size := (leads.sizes purpose batch' he).1
      have positive := outbox.config.threshold_pos
      rw [crowd, show crew.shared.threshold = outbox.config.threshold from rfl] at size
      omega
  · intro idle
    rw [← threshold]
    exact leads.orderly.of_idle idle
  · intro closed rest later
    have goesOn : r.1.Leads (r.1.history t rest r.2) later.1 := leads.orderly.run t r.2 rest
    obtain ⟨sealed, empty, nothing⟩ := goesOn.of_closed leads.orderly closed
    refine ⟨empty, ?_, fun i q p hq add => step_add_of_isClosed hq add sealed⟩
    rw [bulks_run]
    refine List.flatMap_eq_nil_iff.2 fun batch hbatch => ?_
    rw [nothing batch hbatch, Pending.requests_nil]

/-- Two producers whose batches have two items: one adds two items, the other one adds a third
and closes the session. -/
def pair : Crew Unit :=
  start ⟨⟨fun _ => .ok [], fun _ => .ok ()⟩, "things", { batchSize := 2 }⟩
    [[.add (.deletion "1"), .add (.deletion "2")], [.add (.deletion "3"), .close]]

/-- A transport that gets nothing through. -/
def unreachable : Transport Unit := fun _ _ => (.error (.transport "down" true), ())

/-- The third item comes while the first producer waits for the lock, so that the batch is as large
as two producers can make it; its request fails, and so does not the close after it. -/
theorem items_accounted_pair :
    let schedule := [0, 0, 1, 0, 0, 0, 0, 0, 1, 1, 1, 1, 1, 1, 1]
    let history := pair.history unreachable schedule ()
    let r := pair.after unreachable schedule ()
    Shared.batches history = [[.deletion "1", .deletion "2", .deletion "3"], []] ∧ r.1.HasClosed ∧
      Shared.accepted history = [.deletion "1", .deletion "2", .deletion "3"] ∧
      (r.1.run [0, 1]).bulks unreachable r.2 = [] := by
  intro schedule history r
  have closed : r.1.HasClosed := ⟨_, List.mem_of_getElem? (rfl : r.1.producers[1]? = _), _,
    List.mem_of_getElem? (rfl : _[1]? = _)⟩
  have accounted := items_accounted unreachable ()
    ⟨⟨fun _ => .ok [], fun _ => .ok ()⟩, "things", { batchSize := 2 }⟩
    [[.add (.deletion "1"), .add (.deletion "2")], [.add (.deletion "3"), .close]] schedule
  exact ⟨rfl, closed, rfl, (accounted.2.2.2.2.2 closed [0, 1]).2.1⟩

end Crew

end VersionedStore
