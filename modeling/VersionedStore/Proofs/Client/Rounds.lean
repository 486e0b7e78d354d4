import VersionedStore.Proofs.Client.Requests

/-!
# The rounds of an update

An update is a conversation with a transport. It reads the document and writes the changed one on
condition that the version is still the one that was just read; a conflict begins the next round,
as long as there are writes left, and everything else is the end. Whatever the transport replies,
the conversation takes one course, which these rules and the replies determine.

## Main definitions

* `Transport.Gives` — the replies of a conversation are those of a transport
* `Updater.Course` — the rules of the conversation, with its result
* `Updater.answered` — how a round goes on from the answer to its write

## Main results

* `Updater.course_rounds` — the rounds of an update follow the rules
* `Updater.Course.eq_rounds` — nothing else follows them against the same transport
* `Updater.rounds_of_enough` — no round waits for more than the writes that are left
* `Updater.update_course` — the course of an update against any transport
-/

namespace VersionedStore

variable {α σ : Type}

/-- The replies of a conversation are those that a transport gives, one call after the other. -/
def Transport.Gives (t : Transport σ) : List Exchange → σ → Prop
  | [], _ => True
  | e :: rest, s => (t e.1 s).1 = e.2 ∧ t.Gives rest (t e.1 s).2

/-- The replies in a run are those that the transport gives. -/
theorem Transport.gives_exchanges {β : Type} (t : Transport σ) (p : Program β) (s : σ) :
    t.Gives (p.exchanges t s) s := by
  induction p generalizing s with
  | done b => exact trivial
  | call c next ih => exact ⟨rfl, ih _ _⟩

/-- Whether a call of a conversation is a write. -/
def Exchange.isWrite (e : Exchange) : Bool :=
  match e.1 with
  | .write .. => true
  | _ => false

namespace Updater

/-! ## The rules -/

section Rules

variable (u : Updater α) (id : String)

/-- The reading of the document. -/
def reading (reply : Except ClientError (Option Stored)) : Exchange := ⟨.get u.index id, reply⟩

/-- The writing of the document on condition that it still has the version that was read. -/
def writing (payload : Bytes) (read : Version) (reply : Except ClientError Acknowledgement) :
    Exchange :=
  ⟨.write u.index ⟨some id, payload, some read, .index, u.refresh⟩, reply⟩

@[simp] theorem isWrite_reading (reply : Except ClientError (Option Stored)) :
    (u.reading id reply).isWrite = false := rfl

@[simp] theorem isWrite_writing (payload : Bytes) (read : Version)
    (reply : Except ClientError Acknowledgement) :
    (u.writing id payload read reply).isWrite = true := rfl

/-- What an update may do when a number of its writes have met a conflict: its calls with their
replies, and its result. -/
inductive Course (change : α → α) :
    (made : Nat) → List Exchange → Except ClientError Updated → Prop
  /-- The document cannot be read. -/
  | unread {made : Nat} (e : ClientError) : Course change made [u.reading id (.error e)] (.error e)
  /-- There is no document. -/
  | missing {made : Nat} : Course change made [u.reading id (.ok none)] (.error (.notFound id))
  /-- The document that was read cannot be decoded. -/
  | undecoded {made : Nat} {d : Stored} {e : ClientError} :
      u.codec.decode d.source = .error e →
      Course change made [u.reading id (.ok (some d))] (.error e)
  /-- The changed document cannot be encoded. -/
  | unencoded {made : Nat} {d : Stored} {a : α} {e : ClientError} :
      u.codec.decode d.source = .ok a → u.codec.encode (change a) = .error e →
      Course change made [u.reading id (.ok (some d))] (.error e)
  /-- The changed document is written. -/
  | written {made : Nat} {d : Stored} {a : α} {payload : Bytes} (w : Acknowledgement) :
      u.codec.decode d.source = .ok a → u.codec.encode (change a) = .ok payload →
      Course change made
        [u.reading id (.ok (some d)), u.writing id payload d.version (.ok w)]
        (.ok ⟨w, made + 1⟩)
  /-- The write fails, and not by a conflict. -/
  | failed {made : Nat} {d : Stored} {a : α} {payload : Bytes} {e : ClientError} :
      u.codec.decode d.source = .ok a → u.codec.encode (change a) = .ok payload →
      e.isConflict = false →
      Course change made
        [u.reading id (.ok (some d)), u.writing id payload d.version (.error e)] (.error e)
  /-- The last write meets a conflict too. -/
  | exhausted {made : Nat} {d : Stored} {a : α} {payload : Bytes} {e : ClientError} :
      u.codec.decode d.source = .ok a → u.codec.encode (change a) = .ok payload →
      e.isConflict = true → made + 1 = max 1 u.limit →
      Course change made
        [u.reading id (.ok (some d)), u.writing id payload d.version (.error e)]
        (.error (.exhausted id (made + 1)))
  /-- The write meets a conflict, and the document is read again. -/
  | again {made : Nat} {d : Stored} {a : α} {payload : Bytes} {e : ClientError}
      {rest : List Exchange} {result : Except ClientError Updated} :
      u.codec.decode d.source = .ok a → u.codec.encode (change a) = .ok payload →
      e.isConflict = true → made + 1 < max 1 u.limit →
      Course change (made + 1) rest result →
      Course change made
        (u.reading id (.ok (some d)) :: u.writing id payload d.version (.error e) :: rest) result

end Rules

variable {u : Updater α} {id : String} {change : α → α} {made : Nat} {x : List Exchange}
  {result : Except ClientError Updated}

/-- A conversation makes as many writes as are left, at most. -/
theorem Course.writes_le (h : u.Course id change made x result) (left : made < max 1 u.limit) :
    made + x.countP Exchange.isWrite ≤ max 1 u.limit := by
  induction h with
  | again _ _ _ more _ ih =>
    have rest := ih more
    simp only [List.countP_cons, isWrite_reading, isWrite_writing]
    simp only [Bool.false_eq_true, ↓reduceIte]
    omega
  | _ => simp [List.countP_cons]; omega

/-- An update that succeeds tells how many writes it made. -/
theorem Course.attempts_eq (h : u.Course id change made x result) :
    ∀ w, result = .ok w → w.attempts = made + x.countP Exchange.isWrite := by
  induction h with
  | written w =>
    rintro _ ⟨⟩
    rfl
  | again _ _ _ _ _ ih =>
    intro w done
    rw [ih w done]
    simp only [List.countP_cons, isWrite_reading, isWrite_writing]
    simp only [Bool.false_eq_true, ↓reduceIte]
    omega
  | _ => intro w done; cases done

/-! ## The rounds -/

/-- How a round goes on from the answer to its write. -/
def answered (u : Updater α) (id : String) (change : α → α) (left : Nat) (a : Attempts) :
    Except ClientError Acknowledgement → Program (Except ClientError Updated)
  | .ok w => .done (.ok ⟨w, a.made⟩)
  | .error (.conflict ..) =>
    match a.decide with
    | .again _ => u.rounds id change left a
    | .exhausted made => .done (.error (.exhausted id made))
  | .error e => .done (.error e)

theorem rounds_succ (left : Nat) (a : Attempts) :
    u.rounds id change (left + 1) a = .call (.get u.index id) fun
      | .error e => .done (.error e)
      | .ok none => .done (.error (.notFound id))
      | .ok (some d) =>
        match u.codec.revise change d.source with
        | .error e => .done (.error e)
        | .ok payload =>
          .call (.write u.index (u.request id payload d.version))
            (u.answered id change left (a.begin d.version)) := by
  rw [rounds]
  congr 1
  funext got
  rcases got with e | - | d
  · rfl
  · rfl
  dsimp only
  cases u.codec.revise change d.source with
  | error e => rfl
  | ok payload =>
    dsimp only
    congr 1
    funext reply
    cases reply with
    | ok w => rfl
    | error e => cases e <;> rfl

/-- A failure that is no conflict is the end. -/
theorem answered_of_failure {left : Nat} {a : Attempts} {e : ClientError}
    (other : e.isConflict = false) : u.answered id change left a (.error e) = .done (.error e) := by
  cases e with
  | conflict => cases other
  | _ => rfl

/-- A conflict of the last write is the end. -/
theorem answered_of_last {left : Nat} {a : Attempts} {e : ClientError}
    (conflict : e.isConflict = true) (last : ¬ a.made < a.limit) :
    u.answered id change left a (.error e) = .done (.error (.exhausted id a.made)) := by
  cases e with
  | conflict => rw [answered, Attempts.decide, if_neg last]
  | _ => cases conflict

/-- After a conflict there is another round if a write is left. -/
theorem answered_of_more {left : Nat} {a : Attempts} {e : ClientError}
    (conflict : e.isConflict = true) (more : a.made < a.limit) :
    u.answered id change left a (.error e) = u.rounds id change left a := by
  cases e with
  | conflict => rw [answered, Attempts.decide, if_pos more]
  | _ => cases conflict

variable (t : Transport σ) (s : σ)

/-- The rounds of an update follow the rules. -/
theorem course_rounds {left : Nat} {a : Attempts} (limit : a.limit = max 1 u.limit)
    (some_left : 0 < left) (enough : a.made + left = a.limit) :
    u.Course id change a.made ((u.rounds id change left a).exchanges t s)
      ((u.rounds id change left a).run t s).1 := by
  induction left generalizing a s with
  | zero => cases some_left
  | succ left ih =>
    rw [rounds_succ, Program.exchanges, Program.run]
    generalize t (.get u.index id) s = read
    obtain ⟨reply, s'⟩ := read
    rcases reply with e | - | d
    · exact .unread e
    · exact .missing
    simp only [Codec.revise]
    cases decoded : u.codec.decode d.source with
    | error e => exact .undecoded decoded
    | ok document =>
      dsimp only
      cases encoded : u.codec.encode (change document) with
      | error e => exact .unencoded decoded encoded
      | ok payload =>
        simp only [Program.exchanges, Program.run]
        generalize t (.write u.index (u.request id payload d.version)) s' = written
        obtain ⟨reply, s''⟩ := written
        rcases reply with e | w
        · cases conflict : e.isConflict with
          | false =>
            rw [answered_of_failure conflict]
            exact .failed decoded encoded conflict
          | true =>
            by_cases more : a.made + 1 < a.limit
            · rw [answered_of_more conflict more]
              exact .again decoded encoded conflict (limit ▸ more)
                (ih s'' (a := a.begin d.version) limit (by omega)
                  (Nat.add_right_comm a.made 1 left ▸ enough))
            · rw [answered_of_last conflict more]
              exact .exhausted decoded encoded conflict (by omega)
        · exact .written w decoded encoded

theorem course_update :
    u.Course id change 0 ((u.update id change).exchanges t s)
      ((u.update id change).run t s).1 :=
  course_rounds t s (a := .start u.limit) rfl (Nat.le_max_left 1 _) (Nat.zero_add _)

variable {t s}

/-- A round that reads a document and writes the changed one. -/
theorem run_round {d : Stored} {document : α} {payload : Bytes}
    {reply : Except ClientError Acknowledgement} {rest : List Exchange}
    (decoded : u.codec.decode d.source = .ok document)
    (encoded : u.codec.encode (change document) = .ok payload)
    (gives : t.Gives
      (u.reading id (.ok (some d)) :: u.writing id payload d.version reply :: rest) s)
    (left : Nat) (a : Attempts) :
    let next := u.answered id change left (a.begin d.version) reply
    ∃ s', t.Gives rest s' ∧
      (u.rounds id change (left + 1) a).exchanges t s =
        u.reading id (.ok (some d)) :: u.writing id payload d.version reply ::
          next.exchanges t s' ∧
      (u.rounds id change (left + 1) a).run t s = next.run t s' := by
  intro next
  have got : (t (.get u.index id) s).1 = .ok (some d) := gives.1
  have told : (t (.write u.index (u.request id payload d.version))
    (t (.get u.index id) s).2).1 = reply := gives.2.1
  refine ⟨_, gives.2.2, ?_, ?_⟩
  · rw [rounds_succ, Program.exchanges]
    simp only [got, Codec.revise, decoded, encoded, Program.exchanges, told]
    rfl
  · rw [rounds_succ, Program.run]
    simp only [got, Codec.revise, decoded, encoded, Program.run, told]
    rfl

/-- The rules and the replies leave no choice: what follows them are the rounds of the update. -/
theorem Course.eq_rounds (h : u.Course id change made x result) (gives : t.Gives x s) {left : Nat}
    {a : Attempts} (count : a.made = made) (limit : a.limit = max 1 u.limit)
    (some_left : 0 < left) (enough : made + left = a.limit) :
    (u.rounds id change left a).exchanges t s = x ∧
      ((u.rounds id change left a).run t s).1 = result := by
  induction left generalizing made a x s with
  | zero => cases some_left
  | succ left ih =>
    cases h with
    | unread e =>
      have got : (t (.get u.index id) s).1 = .error e := gives.1
      rw [rounds_succ, Program.exchanges, Program.run]
      simp only [got]
      exact ⟨rfl, rfl⟩
    | missing =>
      have got : (t (.get u.index id) s).1 = .ok none := gives.1
      rw [rounds_succ, Program.exchanges, Program.run]
      simp only [got]
      exact ⟨rfl, rfl⟩
    | @undecoded _ d _ decoded =>
      have got : (t (.get u.index id) s).1 = .ok (some d) := gives.1
      rw [rounds_succ, Program.exchanges, Program.run]
      simp only [got, Codec.revise, decoded]
      exact ⟨rfl, rfl⟩
    | @unencoded _ d _ _ decoded encoded =>
      have got : (t (.get u.index id) s).1 = .ok (some d) := gives.1
      rw [rounds_succ, Program.exchanges, Program.run]
      simp only [got, Codec.revise, decoded, encoded]
      exact ⟨rfl, rfl⟩
    | written w decoded encoded =>
      obtain ⟨s', -, calls, told⟩ := run_round decoded encoded gives left a
      rw [calls, told, ← count]
      exact ⟨rfl, rfl⟩
    | failed decoded encoded other =>
      obtain ⟨s', -, calls, told⟩ := run_round decoded encoded gives left a
      rw [calls, told, answered_of_failure other]
      exact ⟨rfl, rfl⟩
    | exhausted decoded encoded conflict last =>
      obtain ⟨s', -, calls, told⟩ := run_round decoded encoded gives left a
      rw [calls, told, answered_of_last conflict (by simp only [Attempts.begin]; omega)]
      rw [← count]
      exact ⟨rfl, rfl⟩
    | again decoded encoded conflict more later =>
      obtain ⟨s', gives', calls, told⟩ := run_round decoded encoded gives left a
      rw [calls, told, answered_of_more conflict (by simp only [Attempts.begin]; omega)]
      obtain ⟨calls', told'⟩ := ih later gives' (a := a.begin _) (congrArg (· + 1) count) limit
        (by omega) (by simp only [Attempts.begin]; omega)
      exact ⟨congrArg (fun rest => _ :: _ :: rest) calls', told'⟩

/-- Rounds beyond the writes that are left make no difference: the update ends by its own rules. -/
theorem rounds_of_enough {left more : Nat} {a : Attempts} (some_left : 0 < left)
    (enough : a.made + left = a.limit) (beyond : left ≤ more) :
    u.rounds id change more a = u.rounds id change left a := by
  induction left generalizing a more with
  | zero => cases some_left
  | succ left ih =>
    obtain ⟨more, rfl⟩ := Nat.exists_eq_add_one.2 (Nat.lt_of_lt_of_le some_left beyond)
    -- Only after a conflict is there a further round, and then a write is left for it.
    have next (v : Version) : u.answered id change more (a.begin v) =
        u.answered id change left (a.begin v) := by
      funext reply
      rcases reply with e | w
      · cases conflict : e.isConflict with
        | false => rw [answered_of_failure conflict, answered_of_failure conflict]
        | true =>
          by_cases begun : a.made + 1 < a.limit
          · rw [answered_of_more conflict begun, answered_of_more conflict begun]
            exact ih (a := a.begin v) (by omega) (by simp only [Attempts.begin]; omega)
              (Nat.le_of_succ_le_succ beyond)
          · rw [answered_of_last conflict begun, answered_of_last conflict begun]
      · rfl
    simp only [rounds_succ, next]

/-- An update takes the one course that the rules and the replies leave open, whatever transport it
is made against: it reads and writes in turn, each write is guarded by the version that was just
read and carries the change of the document that was just read, and the first thing that is not a
conflict, or the conflict of the last write, is the end. As there is no other course, it does not
matter to the calls and to the result whether the caller blocks or waits. An update makes the
configured number of writes at most, it tells how many it made, and it ends by its own rules: rounds
beyond that number make no difference. -/
theorem update_course (u : Updater α) (id : String) (change : α → α) (t : Transport σ) (s : σ) :
    let x := (u.update id change).exchanges t s
    let result := ((u.update id change).run t s).1
    (∀ x' result', u.Course id change 0 x' result' ∧ t.Gives x' s ↔
        x' = x ∧ result' = result) ∧
      x.countP Exchange.isWrite ≤ max 1 u.limit ∧
      (∀ w, result = .ok w → w.attempts = x.countP Exchange.isWrite) ∧
      ∀ rounds ≥ max 1 u.limit, u.rounds id change rounds (.start u.limit) = u.update id change := by
  intro x result
  have some_left : 0 < max 1 u.limit := Nat.le_max_left 1 _
  have enough : (Attempts.start u.limit).made + max 1 u.limit = max 1 u.limit := Nat.zero_add _
  have course : u.Course id change 0 x result := course_update t s
  refine ⟨fun x' result' => ⟨?_, ?_⟩, ?_, ?_, ?_⟩
  · rintro ⟨course', gives⟩
    obtain ⟨calls, told⟩ := course'.eq_rounds gives (a := .start u.limit) rfl rfl some_left enough
    exact ⟨calls.symm, told.symm⟩
  · rintro ⟨rfl, rfl⟩
    exact ⟨course, t.gives_exchanges _ s⟩
  · have writes := course.writes_le some_left
    rwa [Nat.zero_add] at writes
  · intro w done
    rw [course.attempts_eq w done, Nat.zero_add]
  · intro rounds beyond
    exact rounds_of_enough some_left enough beyond

end Updater

end VersionedStore
