import VersionedStore.Proofs.Client.Accounting
import VersionedStore.Testing.Stress

/-!
# Producers that only add

Producers share a session and do nothing but add items to it. As no one closes the session, every
item that they offer is taken in, and a result is a refusal exactly for a batch that was given up:
of the producers whose items were in that batch, only the one that sent it hears of its failure.

## Main definitions

* `Delivery.isLost` — the batches that were given up
* `Producer.Adding` — producers that only add
* `Crew.Loading` — what holds of them between the steps

## Main results

* `Shared.adds_step` — what a step of an add does
* `Crew.Loading.step`, `Crew.Loading.run` — every run keeps it
-/

namespace VersionedStore

variable {α σ : Type}

/-- Whether a batch was given up: its request failed, or it was not answered item by item. -/
def Delivery.isLost (d : Delivery α) : Bool :=
  match d.result with
  | .ok _ => false
  | .error _ => true

/-- An add that sent a batch is refused if the batch is given up. -/
theorem Delivery.isRefusal_eq (d : Delivery α) :
    BulkLoad.isRefusal (.added (d.result.map fun _ => ())) = d.isLost := by
  rw [isLost]
  cases d.result <;> rfl

/-! ## Stages of an add -/

namespace Stage

/-- Whether it is a stage of the adding of an item. -/
def Adds : Stage α → Prop
  | .calling (.add _) | .crossing | .checking | .taking .add | .sending .add _ => True
  | .leaving (.added _) | .returned (.added _) => True
  | _ => False

/-- The item that is about to be added. -/
def offered : Stage α → List (Pending α)
  | .calling (.add p) => [p]
  | _ => []

/-- The result that is known already. -/
def told : Stage α → List SharedResult
  | .leaving r | .returned r => [r]
  | _ => []

end Stage

/-- A step of an add on an open session: the item is taken in at the first step, and the result is a
refusal if the batch that was sent is given up. -/
theorem Shared.adds_step {s : Shared α} {i : Nat} {st : Stage α}
    {next : Program (Stage α × Shared α)} (opened : s.isClosed = false) (adds : st.Adds)
    (goesOn : s.step i st = some next) (t : Transport σ) (x : σ) :
    let r := (next.run t x).1
    r.1.Adds ∧ r.1.offered = [] ∧ r.2.isClosed = false ∧ accepted (s.events st) = st.offered ∧
      r.1.told.countP BulkLoad.isRefusal = st.told.countP BulkLoad.isRefusal +
        (s.session.outbox.deliveries t ((batches (s.events st)).flatMap Outbox.asBatch) x).countP
          Delivery.isLost := by
  intro r
  have did : Step s i st r.1 r.2 := step_cases goesOn t x
  generalize hr : r = moved at did
  obtain ⟨st', s'⟩ := moved
  dsimp only at did
  cases did with
  | refuse p closed =>
    rw [opened] at closed
    cases closed
  | append p | cross p =>
    rw [events_add, opened]
    exact ⟨trivial, rfl, rfl, rfl, rfl⟩
  | acquire wants =>
    rw [Stage.locked?.eq_def] at wants
    split at wants
    · exact adds.elim
    · exact adds.elim
    · cases wants
      exact ⟨trivial, rfl, opened, rfl, rfl⟩
    · cases wants
  | full | slack => exact ⟨trivial, rfl, opened, rfl, rfl⟩
  | closeAgain | close => exact adds.elim
  | take purpose =>
    cases purpose with
    | flush | close => exact adds.elim
    | add => exact ⟨trivial, rfl, opened, rfl, rfl⟩
  | leave answer =>
    cases answer with
    | flushed | closed => exact adds.elim
    | added => exact ⟨trivial, rfl, opened, rfl, rfl⟩
  | send purpose batch stats answer session buffer =>
    cases purpose with
    | flush | close => exact adds.elim
    | add =>
      refine ⟨trivial, rfl, (congrArg Buffer.isSealed buffer).trans opened, rfl, ?_⟩
      have sent : (batches (s.events (.sending .add batch))).flatMap Outbox.asBatch =
          Outbox.asBatch batch := List.flatMap_singleton ..
      -- The answer is what came of the batch, or there was nothing to send.
      obtain rfl := Option.some.inj goesOn
      simp only [r, Program.run_bind, Program.run, sentResult, Prod.mk.injEq, Stage.leaving.injEq,
        SharedResult.added.injEq] at hr
      rw [sent]
      obtain ⟨rfl, nothing⟩ | ⟨some, result⟩ := s.session.sent_cases t x batch
      · rw [sentResult, ← hr.1, nothing]
        rfl
      · rw [sentResult, ← hr.1, Outbox.asBatch_of_ne_nil some, result]
        simp only [Stage.told, Outbox.deliveries, List.countP_cons, List.countP_nil,
          Delivery.isRefusal_eq, Nat.zero_add]

/-! ## Producers -/

/-- The item of an add. -/
def SharedCall.item? : SharedCall α → Option (Pending α)
  | add p => some p
  | _ => none

namespace Producer

/-- The items that it has still to offer. -/
def offers (q : Producer α) : List (Pending α) := q.todo.filterMap SharedCall.item?

/-- The results that it has got or is about to get. -/
def told (q : Producer α) : List SharedResult := q.results ++ q.stage.elim [] Stage.told

/-- All that a producer does is to add items. -/
structure Adding (q : Producer α) : Prop where
  todo : ∀ call ∈ q.todo, ∃ p, call = .add p
  stage : ∀ st, q.stage = some st → st.Adds ∧ st.offered = []

variable {q : Producer α} {st : Stage α}

theorem told_of_current (h : q.current? = some st) : q.told = q.results ++ st.told := by
  rw [told, elim_stage (fun _ => rfl) h]

theorem told_moveTo (q : Producer α) (st : Stage α) :
    (q.moveTo st).told = q.results ++ st.told := by
  cases st with
  | returned r => exact List.append_nil _
  | _ => rfl

namespace Adding

/-- It is in an add or about to begin one, and then one item less is left to offer. -/
theorem current (h : q.Adding) (hst : q.current? = some st) :
    st.Adds ∧ ∀ st', q.offers = st.offered ++ (q.moveTo st').offers := by
  obtain ⟨stage, todo, results⟩ := q
  cases stage with
  | some st =>
    obtain rfl := Option.some.inj hst
    obtain ⟨adds, nothing⟩ := h.stage st rfl
    refine ⟨adds, fun st' => ?_⟩
    rw [nothing]
    cases st' <;> rfl
  | none =>
    rw [current?, Option.none_or, Option.map_eq_some_iff] at hst
    obtain ⟨call, first, rfl⟩ := hst
    obtain ⟨rest, rfl⟩ := List.head?_eq_some_iff.1 first
    obtain ⟨p, rfl⟩ := h.todo call List.mem_cons_self
    refine ⟨trivial, fun st' => ?_⟩
    cases st' <;> rfl

theorem moveTo (h : q.Adding) (adds : st.Adds) (nothing : st.offered = []) :
    (q.moveTo st).Adding where
  todo call hcall := by
    have before : call ∈ q.todo := by
      have here : call ∈ if q.stage.isSome then q.todo else q.todo.tail := by
        cases st <;> exact hcall
      split at here
      · exact here
      · exact List.mem_of_mem_tail here
    exact h.todo call before
  stage st' hst' := by
    rw [stage_moveTo] at hst'
    cases st with
    | returned r => cases hst'
    | _ =>
      obtain rfl := Option.some.inj hst'
      exact ⟨adds, nothing⟩

end Adding

end Producer

/-! ## Crews -/

namespace Crew

/-- The items that are still to be offered. -/
def offers (c : Crew α) : List (Pending α) := c.producers.flatMap Producer.offers

/-- The results that are known. -/
def told (c : Crew α) : List SharedResult := c.producers.flatMap Producer.told

/-- What holds of producers that only add, between the steps: the session is open, what was offered
was taken in, and there are as many refusals as batches that were given up. -/
structure Loading (b : Outbox α) (t : Transport σ) (x : σ) (items : List (Pending α))
    (es : List (Shared.Event α)) (log : List Exchange) (c : Crew α) (x' : σ) : Prop where
  outbox : c.shared.session.outbox = b
  opened : c.shared.isClosed = false
  adding : ∀ q ∈ c.producers, q.Adding
  sends : b.Sends t x ((Shared.batches es).flatMap Outbox.asBatch) log x' c.shared.session.stats
    c.shared.session.notices
  offered : (Shared.accepted es ++ c.offers).Perm items
  refused : c.told.countP BulkLoad.isRefusal =
    (b.deliveries t ((Shared.batches es).flatMap Outbox.asBatch) x).countP Delivery.isLost

namespace Loading

variable {b : Outbox α} {t : Transport σ} {x x' : σ} {items : List (Pending α)}
  {es : List (Shared.Event α)} {log : List Exchange} {c : Crew α}

theorem start (b : Outbox α) (t : Transport σ) (x : σ) (calls : List (List (Pending α))) :
    Loading b t x calls.flatten [] [] (Crew.start b (calls.map (List.map SharedCall.add))) x where
  outbox := rfl
  opened := rfl
  adding q hq := by
    obtain ⟨todo, htodo, rfl⟩ := List.mem_map.1 hq
    obtain ⟨ps, -, rfl⟩ := List.mem_map.1 htodo
    refine ⟨fun call hcall => ?_, nofun⟩
    obtain ⟨p, -, rfl⟩ := List.mem_map.1 hcall
    exact ⟨p, rfl⟩
  sends := Outbox.sends_nil
  offered := by
    have same (ps : List (Pending α)) :
        (Producer.ofCalls (ps.map SharedCall.add)).offers = ps := by
      rw [Producer.offers, Producer.ofCalls, List.filterMap_map]
      exact List.filterMap_some
    refine List.Perm.of_eq ?_
    simp only [Crew.start, offers, List.flatMap_map, same, List.flatMap_id']
    rfl
  refused := by
    have nothing : (Crew.start b (calls.map (List.map SharedCall.add))).told = [] := by
      refine List.flatMap_eq_nil_iff.2 fun q hq => ?_
      obtain ⟨todo, -, rfl⟩ := List.mem_map.1 hq
      rfl
    rw [nothing]
    rfl

/-- What every step keeps. -/
theorem step (h : Loading b t x items es log c x') (i : Nat) :
    Loading b t x items (es ++ c.events i) (log ++ (c.step i).exchanges t x')
      ((c.step i).run t x').1 ((c.step i).run t x').2 := by
  have sent := Crew.sends_step (h.outbox ▸ h.sends) i
  rw [h.outbox, ← List.flatMap_append, ← Shared.batches_append] at sent
  obtain ⟨idle, none⟩ | ⟨q, st, next, hq, hst, goesOn, events, steps⟩ := c.step_cases i
  · rw [idle, none] at sent ⊢
    rw [List.append_nil] at sent ⊢
    exact ⟨h.outbox, h.opened, h.adding, sent, h.offered, h.refused⟩
  obtain ⟨adds, fewer⟩ := (h.adding q (List.mem_of_getElem? hq)).current hst
  obtain ⟨goesOnAdding, nothing, stillOpen, taken, refused⟩ :=
    Shared.adds_step h.opened adds goesOn t x'
  have kept := (Shared.step_cases goesOn t x').outbox_eq
  rw [steps, events] at sent ⊢
  simp only [Program.run_bind, Program.run, moved] at sent ⊢
  generalize (next.run t x').1 = r at goesOnAdding nothing stillOpen refused kept sent ⊢
  obtain ⟨before, after, split, -, set⟩ := split_of_getElem? hq
  refine ⟨kept.trans h.outbox, stillOpen, fun q' hq' => ?_, sent, ?_, ?_⟩
  · obtain rfl | among := List.mem_or_eq_of_mem_set hq' |>.symm
    · exact (h.adding q (List.mem_of_getElem? hq)).moveTo goesOnAdding nothing
    · exact h.adding q' among
  · refine List.Perm.trans ?_ h.offered
    rw [Shared.accepted_append, taken, List.append_assoc]
    refine List.Perm.append_left _ ?_
    rw [offers, offers, set, split]
    simp only [List.flatMap_append, List.flatMap_cons, fewer r.1, List.append_assoc]
    exact (List.perm_append_comm_assoc ..)
  · have before' := h.refused
    rw [Shared.batches_append, List.flatMap_append, Outbox.deliveries_append, List.countP_append,
      ← before', ← h.sends.state, ← h.outbox]
    rw [told, told, set, split]
    simp only [List.flatMap_append, List.flatMap_cons, List.countP_append, Producer.told_moveTo,
      Producer.told_of_current hst, refused]
    omega

/-- What every run keeps. -/
theorem run (h : Loading b t x items es log c x') (schedule : List Nat) :
    Loading b t x items (es ++ c.history t schedule x') (log ++ (c.run schedule).exchanges t x')
      (c.after t schedule x').1 (c.after t schedule x').2 := by
  induction schedule generalizing c x' es log with
  | nil => simpa [history, after, Crew.run, Program.run] using h
  | cons i rest ih =>
    have goesOn := ih (h.step i)
    rw [history, Crew.run, Program.exchanges_bind, ← List.append_assoc, ← List.append_assoc,
      after_cons]
    exact goesOn

/-- When all producers have finished, all items were taken in, and all results are there. -/
theorem finished (h : Loading b t x items es log c x')
    (done : c.producers.all Producer.isFinished = true) :
    c.Idle ∧ (Shared.accepted es).Perm items ∧ c.told = c.producers.flatMap Producer.results := by
  have rests : ∀ q ∈ c.producers, q.stage = none ∧ q.todo = [] := by
    simpa [Producer.isFinished, List.all_eq_true] using done
  have nothing : c.offers = [] := by
    refine List.flatMap_eq_nil_iff.2 fun q hq => ?_
    rw [Producer.offers, (rests q hq).2, List.filterMap_nil]
  have offered := h.offered
  rw [nothing, List.append_nil] at offered
  refine ⟨fun q hq => (rests q hq).1, offered, List.flatMap_congr fun q hq => ?_⟩
  rw [Producer.told, (rests q hq).1]
  exact List.append_nil _

end Loading

end Crew

end VersionedStore
