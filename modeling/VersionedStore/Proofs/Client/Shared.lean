import VersionedStore.Client.Shared
import VersionedStore.Proofs.Client.Requests

/-!
# One step of a call on a shared session

Everything that a step of a call can do to a shared session, said once: what it is allowed to
begin with, where the call stands afterwards, and what became of the session.

## Main definitions

* `Shared.Step` — what a step does
* `Stage.holds`, `Stage.isSurplus`, `Stage.batch` — what a call has in its hands
* `Shared.Event`, `Shared.events` — what a step means for the items
* `Shared.Assured` — what a call is sure of at each of its stages

## Main results

* `Shared.step_cases` — whatever the transport answers, a step is one of these
* `Shared.Step.account` — a step neither loses nor makes up items, nor changes their order
* `Shared.Step.lock`, `Shared.Step.waiting_cases` — what it does to the lock and to what waits
* `Shared.Step.assured`, `Shared.Step.assured_other` — a call goes on being sure of what it does
-/

namespace VersionedStore

variable {α σ : Type}

namespace Stage

/-- Whether the lock is held. -/
def holds : Stage α → Bool
  | .checking | .taking _ | .sealing | .sending _ _ | .leaving _ => true
  | .calling _ | .crossing | .returned _ => false

/-- Whether an item was appended for which a batch may still have to be sent. -/
def isSurplus : Stage α → Bool
  | .crossing | .checking | .taking .add => true
  | _ => false

/-- The items that were taken and are not sent yet. -/
def batch : Stage α → List (Pending α)
  | .sending _ items => items
  | _ => []

/-- The stage of a call that is not over. -/
def underWay? : Stage α → Option (Stage α)
  | .returned _ => none
  | st => some st

/-- The stage after the lock was waited for. -/
def locked? : Stage α → Option (Stage α)
  | .calling .flush => some (.taking .flush)
  | .calling .close => some .sealing
  | .crossing => some .checking
  | _ => none

end Stage

namespace Shared

/-- The items that wait. -/
def waiting (s : Shared α) : List (Pending α) := s.session.buffer.items

/-- Whether no more items are taken. -/
def isClosed (s : Shared α) : Bool := s.session.buffer.isSealed

/-- What a step of producer `i` does, from one stage of its call to another. -/
inductive Step (s : Shared α) (i : Nat) : Stage α → Stage α → Shared α → Prop
  | refuse (p : Pending α) (closed : s.isClosed = true) :
      Step s i (.calling (.add p)) (.returned (.added (.error .sessionClosed))) s
  | append (p : Pending α) (opened : s.isClosed = false)
      (few : s.waiting.length + 1 < s.threshold) :
      Step s i (.calling (.add p)) (.returned (.added (.ok ())))
        (s.withBuffer ⟨s.waiting ++ [p], false⟩)
  | cross (p : Pending α) (opened : s.isClosed = false)
      (many : s.threshold ≤ s.waiting.length + 1) :
      Step s i (.calling (.add p)) .crossing (s.withBuffer ⟨s.waiting ++ [p], false⟩)
  | acquire {st next : Stage α} (wants : st.locked? = some next) (free : s.holder = none) :
      Step s i st next { s with holder := some i }
  | full (many : s.threshold ≤ s.waiting.length) : Step s i .checking (.taking .add) s
  | slack (few : s.waiting.length < s.threshold) :
      Step s i .checking (.leaving (.added (.ok ()))) s
  | take (purpose : Purpose) :
      Step s i (.taking purpose) (.sending purpose s.waiting)
        (s.withBuffer ⟨[], s.isClosed⟩)
  | closeAgain (closed : s.isClosed = true) :
      Step s i .sealing (.leaving (.closed (.ok s.session.stats))) s
  | close (opened : s.isClosed = false) :
      Step s i .sealing (.sending .close s.waiting) (s.withBuffer ⟨[], true⟩)
  | send (purpose : Purpose) (batch : List (Pending α)) (stats : Stats)
      (answer : Except ClientError BatchOutcome) (session : Session α)
      (buffer : session.buffer = s.session.buffer) (outbox : session.outbox = s.session.outbox) :
      Step s i (.sending purpose batch) (.leaving (sentResult stats answer purpose))
        { s with session }
  | leave (r : SharedResult) : Step s i (.leaving r) (.returned r) { s with holder := none }

variable {s s' : Shared α} {i : Nat} {st st' : Stage α}

theorem step_acquire {next : Stage α} {p : Program (Stage α × Shared α)}
    (wants : st.locked? = some next) (h : s.acquire? i next = some p) :
    ∃ s', p = .done (next, s') ∧ Step s i st next s' := by
  rw [acquire?] at h
  split at h
  · next free =>
    obtain rfl := Option.some.inj h
    exact ⟨_, rfl, .acquire wants free⟩
  · cases h

/-- A closed session refuses an item. -/
theorem append_of_isClosed (closed : s.isClosed = true) (p : Pending α) :
    s.append p = (.returned (.added (.error .sessionClosed)), s) := by
  have refused : s.session.buffer.append? p = none := if_pos closed
  rw [append, refused]

theorem step_append (s : Shared α) (i : Nat) (p : Pending α) :
    Step s i (.calling (.add p)) (s.append p).1 (s.append p).2 := by
  cases closed : s.isClosed with
  | true =>
    rw [append_of_isClosed closed]
    exact .refuse p closed
  | false =>
    have taken : s.session.buffer.append? p = some ⟨s.waiting ++ [p], false⟩ := by
      rw [isClosed] at closed
      rw [Buffer.append?, closed]
      rfl
    have size : (⟨s.waiting ++ [p], false⟩ : Buffer (Pending α)).size = s.waiting.length + 1 := by
      rw [Buffer.size, List.length_append, List.length_singleton]
    rw [append, taken]
    simp only [size]
    split
    · next many => exact .cross p closed many
    · next few => exact .append p closed (Nat.lt_of_not_le few)

theorem step_sealBuffer (s : Shared α) (i : Nat) :
    Step s i .sealing s.sealBuffer.1 s.sealBuffer.2 := by
  rw [sealBuffer]
  split
  · next closed => exact .closeAgain closed
  · next opened => exact .close (Bool.eq_false_iff.2 opened)

/-- Whatever the transport answers, a step does one of these. -/
theorem step_cases {next : Program (Stage α × Shared α)} (h : s.step i st = some next)
    (t : Transport σ) (x : σ) : Step s i st (next.run t x).1.1 (next.run t x).1.2 := by
  -- A step makes no calls, unless it sends a batch.
  have silent {p : Stage α × Shared α} (done : Program.done p = next) (did : Step s i st p.1 p.2) :
      Step s i st (next.run t x).1.1 (next.run t x).1.2 := done ▸ did
  have waited {q : Stage α} (wants : st.locked? = some q) (acquired : s.acquire? i q = some next) :
      Step s i st (next.run t x).1.1 (next.run t x).1.2 := by
    obtain ⟨s', rfl, did⟩ := step_acquire wants acquired
    exact did
  cases st with
  | calling c =>
    cases c with
    | add p => exact silent (Option.some.inj h) (s.step_append i p)
    | flush => exact waited rfl h
    | close => exact waited rfl h
  | crossing => exact waited rfl h
  | checking =>
    refine silent (Option.some.inj h) ?_
    by_cases many : s.threshold ≤ s.session.buffer.size
    · rw [if_pos many]
      exact .full many
    · rw [if_neg many]
      exact .slack (Nat.lt_of_not_le many)
  | taking purpose => exact silent (Option.some.inj h) (.take purpose)
  | sealing => exact silent (Option.some.inj h) (s.step_sealBuffer i)
  | sending purpose batch =>
    obtain rfl := Option.some.inj h
    obtain ⟨buffer, outbox⟩ := s.session.run_send_kept t x batch
    rw [Program.run_bind]
    exact .send purpose batch _ _ _ buffer outbox
  | leaving r => exact silent (Option.some.inj h) (.leave r)
  | returned r => cases h

/-! ## The lock -/

namespace Step

/-- The lock is kept by whoever has it, taken when it is free, and given back. -/
theorem lock (h : Step s i st st' s') :
    (st.holds = st'.holds ∧ s'.holder = s.holder) ∨
      (st.holds = false ∧ st'.holds = true ∧ s.holder = none ∧ s'.holder = some i) ∨
      (st.holds = true ∧ st'.holds = false ∧ s'.holder = none) := by
  cases h with
  | acquire wants free =>
    refine .inr (.inl ?_)
    rw [Stage.locked?.eq_def] at wants
    split at wants <;> cases wants <;> exact ⟨rfl, rfl, free, rfl⟩
  | leave r => exact .inr (.inr ⟨rfl, rfl, rfl⟩)
  | _ => exact .inl ⟨rfl, rfl⟩

/-! ## The items -/

theorem outbox_eq (h : Step s i st st' s') : s'.session.outbox = s.session.outbox := by
  cases h with
  | send _ _ _ _ session _ outbox => exact outbox
  | _ => rfl

theorem threshold_eq (h : Step s i st st' s') : s'.threshold = s.threshold := by
  rw [threshold, threshold, h.outbox_eq]

/-- A closed session stays closed. -/
theorem isClosed_of_isClosed (h : Step s i st st' s') (closed : s.isClosed = true) :
    s'.isClosed = true := by
  cases h with
  | append _ opened | cross _ opened => rw [closed] at opened; cases opened
  | close => rfl
  | send _ _ _ _ session buffer => rw [isClosed, buffer]; exact closed
  | _ => exact closed

/-- If a closed session has nothing to send, this stays so. -/
theorem drained (h : Step s i st st' s') (before : s.isClosed = true → s.waiting = [])
    (closed : s'.isClosed = true) : s'.waiting = [] := by
  cases h with
  | append | cross => cases closed
  | take | close => rfl
  | send _ _ _ _ session buffer =>
    rw [isClosed, buffer] at closed
    rw [waiting, buffer]
    exact before closed
  | _ => exact before closed

/-- A step that leaves as many items waiting as make a batch has left all that waited, or it has
added one for which a batch may have to be sent. -/
theorem waiting_cases (h : Step s i st st' s') :
    s'.waiting.length < s.threshold ∨
      (s'.waiting = s.waiting ∧ (st.isSurplus = true → st'.isSurplus = true)) ∨
      (s'.waiting.length = s.waiting.length + 1 ∧ st.isSurplus = false ∧
        st'.isSurplus = true) := by
  cases h with
  | refuse => exact .inr (.inl ⟨rfl, id⟩)
  | append p opened few => exact .inl (by simpa [waiting, withBuffer] using few)
  | cross p => exact .inr (.inr ⟨by simp [waiting, withBuffer], rfl, rfl⟩)
  | acquire wants =>
    refine .inr (.inl ⟨rfl, ?_⟩)
    rw [Stage.locked?.eq_def] at wants
    split at wants <;> cases wants <;> simp [Stage.isSurplus]
  | slack few => exact .inl few
  | take | close => exact .inl s.session.outbox.config.threshold_pos
  | send _ _ _ _ session buffer => exact .inr (.inl ⟨by rw [waiting, buffer]; rfl, nofun⟩)
  | full | closeAgain | leave => exact .inr (.inl ⟨rfl, by simp [Stage.isSurplus]⟩)

/-- What waits only grows, unless the lock is held. -/
theorem length_waiting_le (h : Step s i st st' s') (free : st.holds = false) :
    s.waiting.length ≤ s'.waiting.length := by
  cases h with
  | append | cross => simp [waiting, withBuffer]
  | refuse | acquire => exact Nat.le_refl _
  | _ => cases free

end Step

/-- A close returns by giving back the lock. -/
theorem Step.of_closed {r : Except ClientError Stats}
    (h : Step s i st (.returned (.closed r)) s') : st = .leaving (.closed r) := by
  generalize returned : Stage.returned (SharedResult.closed r) = st' at h
  cases h with
  | leave => cases returned; rfl
  | acquire wants =>
    rw [Stage.locked?.eq_def] at wants
    split at wants <;> cases wants <;> cases returned
  | _ => cases returned

/-! ## Events -/

/-- What a step means for the items. -/
inductive Event (α : Type)
  /-- An item was taken in. -/
  | accepted (p : Pending α)
  /-- A batch was sent. -/
  | sent (purpose : Purpose) (batch : List (Pending α))

/-- What the next step of a call means for the items. -/
def events (s : Shared α) : Stage α → List (Event α)
  | .calling (.add p) => ((s.session.buffer.append? p).map fun _ => Event.accepted p).toList
  | .sending purpose batch => [.sent purpose batch]
  | _ => []

/-- The item that was taken in. -/
def Event.item? : Event α → Option (Pending α)
  | accepted p => some p
  | sent .. => none

/-- The batch that was sent. -/
def Event.batch? : Event α → Option (List (Pending α))
  | accepted _ => none
  | sent _ batch => some batch

/-- The items that were taken in, in order. -/
def accepted (es : List (Event α)) : List (Pending α) := es.filterMap Event.item?

/-- The batches that were sent, in order. -/
def batches (es : List (Event α)) : List (List (Pending α)) := es.filterMap Event.batch?

theorem accepted_append (es es' : List (Event α)) :
    accepted (es ++ es') = accepted es ++ accepted es' := List.filterMap_append

theorem batches_append (es es' : List (Event α)) :
    batches (es ++ es') = batches es ++ batches es' := List.filterMap_append

theorem events_add (s : Shared α) (p : Pending α) :
    s.events (.calling (.add p)) = if s.isClosed then [] else [.accepted p] := by
  rw [events, Buffer.append?, isClosed]
  split <;> rfl

/-- A call that waits for the lock has no items in hand. -/
theorem events_of_waits (h : s.step i st = none) : s.events st = [] := by
  cases st with
  | calling c =>
    cases c with
    | add p => cases h
    | flush | close => rfl
  | sending => cases h
  | _ => rfl

/-- A batch is sent in one stage only. -/
theorem eq_sending_of_mem {purpose : Purpose} {batch : List (Pending α)}
    (h : .sent purpose batch ∈ s.events st) : st = .sending purpose batch := by
  cases st with
  | calling c =>
    cases c with
    | add p =>
      rw [events_add] at h
      split at h <;> simp at h
    | flush | close => cases h
  | sending purpose' batch' =>
    obtain ⟨rfl, rfl⟩ : purpose = purpose' ∧ batch = batch' := by simpa [events] using h
    rfl
  | _ => cases h

/-- Without the lock no items are in hand and none are sent. -/
theorem Step.of_free (h : Step s i st st' s') (free : st.holds = false) :
    batches (s.events st) = [] ∧ st.batch = [] ∧ st'.batch = [] := by
  cases h with
  | refuse p closed => simp [events_add, closed, batches, Stage.batch]
  | append p opened | cross p opened =>
    simp [events_add, opened, batches, Event.batch?, Stage.batch]
  | acquire wants =>
    rw [Stage.locked?.eq_def] at wants
    split at wants <;> cases wants <;> exact ⟨rfl, rfl, rfl⟩
  | _ => cases free

/-- A closed session takes nothing in. -/
theorem accepted_of_isClosed (closed : s.isClosed = true) (st : Stage α) :
    accepted (s.events st) = [] := by
  cases st with
  | calling call =>
    cases call with
    | add p => rw [events_add, if_pos closed]; rfl
    | flush | close => rfl
  | _ => rfl

/-- A step neither loses nor makes up items, nor does it change their order. -/
theorem Step.account (h : Step s i st st' s') :
    (batches (s.events st)).flatten ++ st'.batch ++ s'.waiting =
      st.batch ++ s.waiting ++ accepted (s.events st) := by
  cases h with
  | refuse p closed => simp [events_add, closed, batches, accepted, Stage.batch]
  | append p opened | cross p opened =>
    simp [events_add, opened, batches, accepted, Event.item?, Event.batch?, Stage.batch, waiting,
      withBuffer]
  | acquire wants =>
    rw [Stage.locked?.eq_def] at wants
    split at wants <;> cases wants <;> simp [events, batches, accepted, Stage.batch, waiting]
  | send _ _ _ _ session buffer =>
    simp [events, batches, accepted, Event.item?, Event.batch?, Stage.batch, waiting, buffer]
  | _ => simp [events, batches, accepted, Stage.batch, waiting, withBuffer]

/-- The bulk requests of a step are those of the batch that it sends. -/
theorem bulks_step {next : Program (Stage α × Shared α)} (h : s.step i st = some next)
    (t : Transport σ) (x : σ) :
    next.bulks t x = (batches (s.events st)).flatMap Pending.requests := by
  have silent {p : Stage α × Shared α} (done : Program.done p = next)
      (none : batches (s.events st) = []) :
      next.bulks t x = (batches (s.events st)).flatMap Pending.requests := by
    rw [← done, none]
    rfl
  have waited {q : Stage α} (wants : st.locked? = some q) (acquired : s.acquire? i q = some next)
      (none : batches (s.events st) = []) :
      next.bulks t x = (batches (s.events st)).flatMap Pending.requests := by
    obtain ⟨s', rfl, -⟩ := step_acquire wants acquired
    exact silent rfl none
  cases st with
  | calling c =>
    cases c with
    | add p => exact silent (Option.some.inj h) ((s.step_append i p).of_free rfl).1
    | flush | close => exact waited rfl h rfl
  | crossing => exact waited rfl h rfl
  | checking | taking | sealing | leaving => exact silent (Option.some.inj h) rfl
  | sending purpose batch =>
    obtain rfl := Option.some.inj h
    rw [Program.bulks_bind, Session.bulks_send, Program.bulks_done]
    simp [events, batches, Event.batch?]
  | returned => cases h

/-! ## What a call is sure of -/

/-- What holds while a call stands at a stage, with at most `crowd` producers: an add has seen
enough items for a batch and leaves it to no one else to take them, a batch in hand is not larger
than the crowd can make it, and after a close the session is closed. -/
def Assured (s : Shared α) (crowd : Nat) : Stage α → Prop
  | .taking purpose => purpose ≠ .close ∧ (purpose = .add → s.threshold ≤ s.waiting.length)
  | .sending purpose batch => batch.length < s.threshold + crowd ∧
      (purpose = .add → s.threshold ≤ batch.length) ∧ (purpose = .close → s.isClosed = true)
  | .leaving r => ∀ stats, r = .closed stats → s.isClosed = true
  | _ => True

/-- A call goes on being sure of what it does. -/
theorem Step.assured (h : Step s i st st' s') {crowd : Nat} (before : s.Assured crowd st)
    (bounded : s.waiting.length < s.threshold + crowd) : s'.Assured crowd st' := by
  cases h with
  | refuse | append | cross => trivial
  | acquire wants =>
    rw [Stage.locked?.eq_def] at wants
    split at wants <;> cases wants
    · exact ⟨nofun, nofun⟩
    · trivial
    · trivial
  | full many => exact ⟨nofun, fun _ => many⟩
  | slack => exact nofun
  | take purpose => exact ⟨bounded, before.2, fun close => absurd close before.1⟩
  | closeAgain closed => exact fun _ _ => closed
  | close => exact ⟨bounded, nofun, fun _ => rfl⟩
  | send purpose batch stats answer session buffer =>
    intro stats' closing
    rw [isClosed, buffer]
    refine before.2.2 ?_
    cases purpose with
    | close => rfl
    | add | flush => cases closing
  | leave r => trivial

/-- What a call is sure of does not depend on the others, as only one of them can hold the
lock. -/
theorem Step.assured_other (h : Step s i st st' s') {crowd : Nat} {other : Stage α}
    (apart : st.holds = false ∨ other.holds = false) (before : s.Assured crowd other) :
    s'.Assured crowd other := by
  cases other with
  | taking purpose =>
    obtain free | free := apart
    · rw [Assured, h.threshold_eq]
      exact ⟨before.1, fun add => Nat.le_trans (before.2 add) (h.length_waiting_le free)⟩
    · cases free
  | sending purpose batch =>
    rw [Assured, h.threshold_eq]
    exact ⟨before.1, before.2.1, fun close => h.isClosed_of_isClosed (before.2.2 close)⟩
  | leaving r => exact fun stats closing => h.isClosed_of_isClosed (before stats closing)
  | calling | crossing | checking | sealing | returned => trivial

end Shared

end VersionedStore
