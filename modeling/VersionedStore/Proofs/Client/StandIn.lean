import VersionedStore.Proofs.Client.Mirror

/-!
# A stand-in beside a store

A stand-in and a store over a transport that are asked for the same, on one index. What is expected
of a document is a version that was told earlier; as each side tells versions of its own, a version
is named by its number among those that were told so far. Both sides then give the same answers and
hold the same documents, but for the reasons for which they refuse a guarded create and a guarded
delete of what is missing.

## Main definitions

* `Edit`, `Ask` — what is asked of both sides
* `Ask.rounds` — both sides, asked one thing after another
* `Ask.Matches` — replies of both sides that go together
* `Memory.Holds` — both sides hold the same documents
* `Memory.StandsFor` — the stand-in is the mirror of an index of the store

## Main results

* `Memory.StandsFor.send` — what one question does on both sides
* `Memory.stands_in` — what both sides answer to any questions, and hold after each of them
-/

namespace VersionedStore

open Json

/-! ## What is asked of both sides -/

/-- A change of a document that may expect a version of it. -/
structure Edit where
  id : String
  change : Change
  /-- The number of the expected version among those that were told so far. -/
  expects : Option Nat := none
  /-- Whether the edit names the index also in a bulk request, which names it for all. -/
  named : Bool := false
deriving DecidableEq

namespace Edit

variable {σ : Type} (index : String) (told : List Version) (e : Edit)

/-- The version that is expected, where these versions were told. -/
def required : Option Version := e.expects.bind (told[·]?)

/-- The edit as an action of a bulk request. -/
def action : Action :=
  let name := if e.named then some index else none
  match e.change with
  | .put mode payload => ⟨mode.kind, name, some e.id, e.required told, some payload⟩
  | .remove => ⟨.delete, name, some e.id, e.required told, none⟩

/-- The edit as a call of its own. -/
def send (t : Transport σ) (refresh : RefreshPolicy) :
    σ → Except ClientError Acknowledgement × σ :=
  match e.change with
  | .put mode payload => t (.write index ⟨some e.id, payload, e.required told, mode, refresh⟩)
  | .remove => t (.delete index e.id (e.required told) refresh)

end Edit

/-- What is asked of both sides. -/
inductive Ask
  | get (id : String)
  | edit (e : Edit) (refresh : RefreshPolicy)
  | bulk (es : List Edit) (refresh : RefreshPolicy)

namespace Ask

variable {σ τ : Type}

@[reducible] def Reply : Ask → Type
  | get _ => Except ClientError (Option Stored)
  | edit .. => Except ClientError Acknowledgement
  | bulk .. => Except ClientError (List Wire.Item)

/-- Asks one side, which has told some versions. -/
def send (t : Transport σ) (index : String) (told : List Version) : (a : Ask) → σ → a.Reply × σ
  | get id => t (.get index id)
  | edit e refresh => e.send index told t refresh
  | bulk es refresh => t (.bulk index (es.map (Edit.action index told)) refresh)

/-- The versions that a reply tells, in order. -/
def versions : (a : Ask) → a.Reply → List Version
  | get _, r => (r.toOption.join.map Stored.version).toList
  | edit .., r => (r.toOption.map Acknowledgement.version).toList
  | bulk .., r => (r.toOption.getD []).filterMap fun i => i.outcome.version

/-- One thing that two sides were asked. -/
structure Round (σ τ : Type) where
  ask : Ask
  /-- The versions that the first side had told before. -/
  told : List Version
  mine : ask.Reply
  theirs : ask.Reply
  /-- The first side after it. -/
  left : σ
  /-- The second side after it. -/
  right : τ

/-- Two sides that are asked one thing after another, each with the versions that it told itself. -/
def rounds (t : Transport σ) (t' : Transport τ) (index : String) :
    List Ask → (told told' : List Version) → σ → τ → List (Round σ τ)
  | [], _, _, _, _ => []
  | a :: as, told, told', s, s' =>
    let mine := a.send t index told s
    let theirs := a.send t' index told' s'
    ⟨a, told, mine.1, theirs.1, mine.2, theirs.2⟩ ::
      rounds t t' index as (told ++ a.versions mine.1) (told' ++ a.versions theirs.1) mine.2
        theirs.2

/-- What both sides can be asked: documents have ids, and a bulk request is not larger than the
store allows. A document with line feeds is printed on one line in a bulk request, so its numbers
have to be steady. -/
def Fits (config : StoreConfig) : Ask → Prop
  | get id => id ≠ ""
  | edit e _ => e.id ≠ "" ∧ e.change.Fits
  | bulk es _ => es.length ≤ config.maxActions ∧ ∀ e ∈ es, e.id ≠ "" ∧ e.change.Fits ∧
      ∀ mode payload, e.change = .put mode payload → octet '\n' ∈ payload →
        ∀ v, Value.parse? payload = some v → v.Steady

end Ask

/-! ## What goes together -/

/-- What a change of its own came to. -/
def Change.Result.ofReply : Except ClientError Acknowledgement → Change.Result
  | .ok a => .ok a.result
  | .error e => .error e.failureKind

/-- What a change in a bulk request came to. -/
def Change.Result.ofItem (i : Wire.Item) : Change.Result :=
  match i.outcome.failureKind? with
  | some kind => .error kind
  | none => .ok (i.outcome.result.getD "")

/-- A reading shows nothing on both sides, or the same document, which the store prints. -/
inductive SameReading :
    Except ClientError (Option Stored) → Except ClientError (Option Stored) → Prop
  | nothing : SameReading (.ok none) (.ok none)
  | document {d d' : Stored} {v : Value} (id : d'.id = d.id)
    (parsed : Value.parse? d.source = some v) (printed : d'.source = v.reread.write) :
    SameReading (.ok (some d)) (.ok (some d'))

/-- Items of both sides that go together, one for each edit. -/
inductive MatchingItems (agrees : Edit → Change.Result → Change.Result → Prop) :
    List Edit → List Wire.Item → List Wire.Item → Prop
  | nil : MatchingItems agrees [] [] []
  | cons {e : Edit} {es : List Edit} {i i' : Wire.Item} {is is' : List Wire.Item}
    (first : agrees e (.ofItem i) (.ofItem i')) (rest : MatchingItems agrees es is is') :
    MatchingItems agrees (e :: es) (i :: is) (i' :: is')

/-- Replies of both sides that go together: readings show the same, bulk requests are answered item
by item, and on each edit the results of both sides agree. -/
def Ask.Matches (agrees : Edit → Change.Result → Change.Result → Prop) :
    (a : Ask) → a.Reply → a.Reply → Prop
  | .get _, mine, theirs => SameReading mine theirs
  | .edit e _, mine, theirs => agrees e (.ofReply mine) (.ofReply theirs)
  | .bulk es _, mine, theirs => ∃ is is', mine = .ok is ∧ theirs = .ok is' ∧
      MatchingItems agrees es is is'

/-- Whether a stand-in holds the documents of an index, as JSON values, under the same ids. -/
def Memory.Holds (m : Memory) (index : String) (s : Store) : Prop :=
  ∀ id, (m.documents.find? id).map (fun d => Value.parse? d.source) =
    (s.document? index id).map fun d => some d.source

/-- Whether a stand-in is the mirror of an index of a store. -/
structure Memory.StandsFor (config : StoreConfig) (index : String) (m : Memory) (s : Store) :
    Prop where
  configured : s.config = config
  mirrors : m.Mirrors config.epoch (s.indexOrEmpty index)

/-! ## One change -/

/-- What is told of a change of a stand-in. -/
def Memory.account (r : Except FailureKind (String × Version) × Memory) :
    Change.Result × Option Version × Memory :=
  (r.1.map Prod.fst, r.1.toOption.map Prod.snd, r.2)

/-- What is told of a change of a store. -/
def Store.account (r : Except StoreError Written × Store) :
    Change.Result × Option Version × Store :=
  (match r.1 with
    | .ok w => .ok w.result.word
    | .error e => .error (.ofStatus e.status),
    r.1.toOption.map Written.version, r.2)

/-- What is told of a change on both sides goes together, and the stand-in is the mirror of the index
after it. -/
structure Matched (config : StoreConfig) (index : String) (c : Change) (guarded : Bool) (m : Memory)
    (mine : Change.Result × Option Version × Memory)
    (theirs : Change.Result × Option Version × Store) : Prop where
  agrees : c.Agrees guarded mine.1 theirs.1
  version : Option.Rel (Version.Mirrors config.epoch mine.2.2.sequence) mine.2.1 theirs.2.1
  standsFor : mine.2.2.StandsFor config index theirs.2.2
  later : m.sequence ≤ mine.2.2.sequence

namespace Memory.StandsFor

variable {config : StoreConfig} {index : String} {m : Memory} {s : Store}

/-- The mirror of an index holds its documents. -/
theorem holds (h : m.StandsFor config index s) : m.Holds index s := by
  intro id
  rw [Store.document?]
  obtain ⟨mine, theirs⟩ | ⟨d, d', mine, theirs, documents⟩ := h.mirrors.document_cases id
  · rw [mine, theirs]
    rfl
  · rw [mine, theirs, Option.map_some, Option.map_some,
      Store.parse?_of_parseSource documents.source]

/-- What is published does not matter. -/
theorem settled {s' : Store} (h : m.StandsFor config index s) (same : s.SameDocuments s') :
    m.StandsFor config index s' :=
  ⟨same.config.trans h.configured, h.mirrors.congr (same.live index) (same.writes index)⟩

/-- A change of the index on both sides. -/
theorem change (h : m.StandsFor config index s) {c : Change} {guarded : Bool}
    {mine : Except FailureKind (String × Version) × Memory}
    {changed : Except StoreError (Written × Index)}
    (edited : Memory.Edited config.epoch c guarded m mine changed) :
    Matched config index c guarded m (Memory.account mine)
      (Store.account (s.change index (s.indexOrEmpty index) changed)) := by
  cases edited with
  | done agrees version mirrors later =>
    refine ⟨agrees, .some version, ⟨h.configured, ?_⟩, later⟩
    simpa [Store.account, Store.change, Memory.account] using mirrors
  | refused agrees =>
    refine ⟨agrees, .none, ⟨h.configured, ?_⟩, Nat.le_refl _⟩
    simpa [Store.account, Store.change, Memory.account] using h.mirrors

end Memory.StandsFor

/-! ### The change in a bulk request -/

/-- An item that is refused comes to the kind of its status. -/
theorem Change.Result.ofItem_failure {i : Wire.Item} (failed : i.outcome.isSuccess = false) :
    ofItem i = .error (.ofStatus i.outcome.status) := by
  rw [ofItem, Wire.Outcome.failureKind?, failed]
  rfl

/-- An item that succeeded comes to its word. -/
theorem Change.Result.ofItem_success {i : Wire.Item} {word : String}
    (succeeded : i.outcome.isSuccess = true) (told : i.outcome.result = some word) :
    ofItem i = .ok word := by
  rw [ofItem, Wire.Outcome.failureKind?, succeeded, told]
  rfl

/-- An action of a stand-in for which nothing is arranged is its change. -/
theorem Memory.apply_account (m : Memory) (unforced : m.forcedConflicts = 0) (index : String)
    (told : List Version) (e : Edit) :
    let r := m.apply (e.action index told)
    (Change.Result.ofItem r.1, r.1.outcome.version, r.2) =
      Memory.account (m.edited e.id e.change (e.required told)) := by
  unfold Edit.action apply edited
  cases e.change with
  | put mode payload =>
    have creates : mode.kind = .create ↔ mode = .create := by cases mode <;> simp [WriteMode.kind]
    have writes : mode.kind ≠ .delete := by cases mode <;> simp [WriteMode.kind]
    simp only [refusal?, unforced, Option.getD_some, creates, writes, Nat.lt_irrefl, and_false,
      false_and, if_false]
    by_cases exist : mode = .create ∧ m.documents.contains e.id = true
    · rw [if_pos exist, if_pos exist]
      rfl
    · rw [if_neg exist, if_neg exist]
      cases mismatch : m.mismatch? e.id (e.required told) with
      | some reason => rfl
      | none =>
        simp only [Option.map_none, Option.isSome_none, Bool.false_eq_true, if_false, writeResult]
        cases m.documents.contains e.id <;> rfl
  | remove =>
    simp only [refusal?, unforced, Option.getD_some, reduceCtorEq, Nat.lt_irrefl, and_false,
      false_and, true_and, if_false, if_true]
    by_cases missing : (!m.documents.contains e.id) = true
    · rw [if_pos missing, if_pos missing]
      rfl
    · rw [if_neg missing, if_neg missing]
      cases mismatch : m.mismatch? e.id (e.required told) with
      | some reason => rfl
      | none => rfl

/-- An action of a store on an index is the change of the index. -/
theorem Store.apply_account (s : Store) (index : String) (told : List Version) {e : Edit}
    (fits : e.change.Fits) :
    let r := s.apply (some index) (e.action index told)
    (Change.Result.ofItem r.1, r.1.outcome.version, r.2) =
      Store.account (s.change index (s.indexOrEmpty index)
        ((s.indexOrEmpty index).edited s.config.epoch e.id e.change (e.required told))) := by
  have there : (e.action index told).index.or (some index) = some index := by
    unfold Edit.action
    cases e.change <;> cases e.named <;> rfl
  have addressed : s.actionId (e.action index told) = (some e.id, s) := by
    unfold Edit.action
    cases e.change <;> rfl
  have changed : s.applyAt index e.id (e.action index told) =
      s.change index (s.indexOrEmpty index)
        ((s.indexOrEmpty index).edited s.config.epoch e.id e.change (e.required told)) := by
    unfold Edit.action
    cases hc : e.change with
    | remove => rfl
    | put mode payload =>
      rw [hc] at fits
      obtain ⟨ms, parsed, -⟩ := fits
      have source : parseSource payload = .ok (.object ms) := by rw [parseSource, parsed]
      have writes : mode.kind.mode? = some mode := by cases mode <;> rfl
      simp only [applyAt, writes, source, Index.edited]
      rfl
  rw [apply_of_actionId there addressed, changed]
  generalize s.change index _ _ = r
  obtain ⟨answer, s'⟩ := r
  refine Prod.ext ?_ (Prod.ext (version_outcome index (some e.id) answer) rfl)
  cases answer with
  | ok w => exact Change.Result.ofItem_success (isSuccess_success index w) rfl
  | error err =>
    have came := Change.Result.ofItem_failure
      (i := ⟨(e.action index told).kind, failure (some index) (some e.id) err⟩)
      (isSuccess_failure (some index) (some e.id) err)
    rw [status_failure] at came
    exact came

/-! ### The change by itself -/

/-- A call of a stand-in for which nothing is arranged is its change, but that writes are counted. -/
theorem Memory.send_account (m : Memory) (unforced : m.forcedConflicts = 0) (index : String)
    (told : List Version) (e : Edit) (refresh : RefreshPolicy) :
    let r := e.send index told Memory.transport refresh m
    ∃ writes, (Change.Result.ofReply r.1, r.1.toOption.map Acknowledgement.version, r.2) =
      let a := Memory.account (m.edited e.id e.change (e.required told))
      (a.1, a.2.1, { a.2.2 with writes }) := by
  unfold Edit.send edited
  cases e.change with
  | put mode payload =>
    have unarranged : ¬ ((e.required told).isSome = true ∧ 0 < m.forcedConflicts) := by
      rw [unforced]
      exact fun h => Nat.lt_irrefl 0 h.2
    refine ⟨m.writes + 1, ?_⟩
    simp only [transport, write, Option.getD_some, unarranged, if_false]
    by_cases exist : mode = .create ∧ m.documents.contains e.id = true
    · rw [if_pos exist, if_pos exist]
      rfl
    · rw [if_neg exist, if_neg exist]
      have same : mismatch? { m with writes := m.writes + 1 } e.id (e.required told) =
          m.mismatch? e.id (e.required told) := rfl
      rw [same]
      cases m.mismatch? e.id (e.required told) <;> rfl
  | remove =>
    refine ⟨m.writes, ?_⟩
    simp only [transport, delete]
    cases m.documents.contains e.id with
    | false => rfl
    | true => cases m.mismatch? e.id (e.required told) <;> rfl

namespace Store

variable (s : Store) (index id : String) (required : Option Version) (refresh : RefreshPolicy)

/-- A write is a change of its index, after which something may be published. -/
theorem write_change (mode : WriteMode) {payload : Bytes} {v : Value}
    (parsed : parseSource payload = .ok v) :
    let r := s.write index (some id) mode.kind required payload refresh
    let changed := s.change index (s.indexOrEmpty index)
      ((s.indexOrEmpty index).edited s.config.epoch id (.put mode payload) required)
    r.1 = changed.1 ∧ changed.2.SameDocuments r.2 := by
  have writes : mode.kind.mode? = some mode := by cases mode <;> rfl
  have changes : s.change index (s.indexOrEmpty index)
      ((s.indexOrEmpty index).edited s.config.epoch id (.put mode payload) required) =
        s.writeAt index mode id required v := by
    simp only [Index.edited, parsed]
    rfl
  simp only [write, address, writes, parsed, changes]
  obtain ⟨answer, s'⟩ := s.writeAt index mode id required v
  cases answer with
  | error e => exact ⟨rfl, rfl, fun _ => rfl, fun _ => rfl⟩
  | ok w => exact ⟨rfl, sameDocuments_settle s' index refresh⟩

/-- A delete is a change of its index, after which something may be published. -/
theorem delete_change (there : s.hasIndex index = true) :
    let r := s.delete index id required refresh
    let changed := s.change index (s.indexOrEmpty index)
      ((s.indexOrEmpty index).edited s.config.epoch id .remove required)
    r.1 = changed.1 ∧ changed.2.SameDocuments r.2 := by
  obtain ⟨ix, found⟩ := Option.isSome_iff_exists.1 there
  have here : s.index index = .ok ix := by rw [Store.index, found]
  have changes : s.change index (s.indexOrEmpty index)
      ((s.indexOrEmpty index).edited s.config.epoch id .remove required) =
        s.deleteAt index id required := rfl
  simp only [delete, here, changes]
  obtain ⟨answer, s'⟩ := s.deleteAt index id required
  cases answer with
  | error e => exact ⟨rfl, rfl, fun _ => rfl, fun _ => rfl⟩
  | ok w => exact ⟨rfl, sameDocuments_settle s' index refresh⟩

end Store

/-- The result of an operation arrives as an answer, or as a failure of its kind, where a call has
no answer for what is missing. -/
theorem StoreCall.Arrives.cases_of_none {c : StoreCall} {r : Except StoreError c.call.Answer}
    {reply : c.call.Reply} (h : c.Arrives r reply) (full : c.whenMissing? = none) :
    (∃ a, r = .ok a ∧ reply = .ok a) ∨
      ∃ e f, r = .error e ∧ reply = .error f ∧ f.failureKind = .ofStatus e.status := by
  cases h with
  | answer a => exact .inl ⟨a, rfl, rfl⟩
  | nothing _ missing =>
    rw [full] at missing
    cases missing
  | failure _ kind => exact .inr ⟨_, _, rfl, rfl, kind⟩

/-- What is missing arrives as the answer that a call has for it. -/
theorem StoreCall.Arrives.eq_missing {c : StoreCall} {e : StoreError} {a : c.call.Answer}
    {reply : c.call.Reply} (h : c.Arrives (.error e) reply) (status : e.status = 404)
    (missing : c.whenMissing? = some a) : reply = .ok a := by
  cases h with
  | nothing _ answered => rw [Option.some.inj (answered.symm.trans missing)]
  | failure full _ =>
    rw [full status] at missing
    cases missing

/-- What a reply tells is what the operation told. -/
theorem Change.Result.ofReply_arrived {x : Except StoreError Written}
    {reply : Except ClientError Acknowledgement} (s : Store)
    (arrived : (∃ a, x.map StoreCall.acknowledged = .ok a ∧ reply = .ok a) ∨
      ∃ e f, x.map StoreCall.acknowledged = .error e ∧ reply = .error f ∧
        f.failureKind = .ofStatus e.status) :
    ofReply reply = (Store.account (x, s)).1 ∧
      reply.toOption.map Acknowledgement.version = (Store.account (x, s)).2.1 := by
  cases x with
  | ok w =>
    obtain ⟨a, told, rfl⟩ | ⟨e, f, told, -⟩ := arrived
    · cases told
      exact ⟨rfl, rfl⟩
    · cases told
  | error e =>
    obtain ⟨a, told, -⟩ | ⟨e, f, told, rfl, kind⟩ := arrived
    · cases told
    · cases told
      exact ⟨congrArg Except.error kind, rfl⟩

namespace Loopback

variable {http : HttpConfig} (bare : Bare http.base) {s : Http.Connection Server} {index : String}

include bare

/-- A call of a store over the transport is the change of its index. -/
theorem send_account (named : index ≠ "") {e : Edit} (known : e.id ≠ "") (fits : e.change.Fits)
    (told : List Version) (refresh : RefreshPolicy)
    (there : e.change = .remove → s.client.store.hasIndex index = true) :
    let r := e.send index told (transport http) refresh s
    let a := Store.account (s.client.store.change index (s.client.store.indexOrEmpty index)
      ((s.client.store.indexOrEmpty index).edited s.client.store.config.epoch e.id e.change
        (e.required told)))
    Change.Result.ofReply r.1 = a.1 ∧ r.1.toOption.map Acknowledgement.version = a.2.1 ∧
      a.2.2.SameDocuments r.2.client.store := by
  unfold Edit.send
  cases change : e.change with
  | put mode payload =>
    rw [change] at fits
    obtain ⟨ms, parsed, -⟩ := fits
    have source : Store.parseSource payload = .ok (.object ms) := by
      rw [Store.parseSource, parsed]
    obtain ⟨arrives, after⟩ := transparent_write bare (s := s) named
      (w := ⟨some e.id, payload, e.required told, mode, refresh⟩)
      fun empty => known (Option.some.inj empty)
    obtain ⟨answered, same⟩ :=
      s.client.store.write_change index e.id (e.required told) refresh mode source
    have reported := Change.Result.ofReply_arrived s.client.store
      (x := (s.client.store.write index (some e.id) mode.kind (e.required told) payload refresh).1)
      (arrives.cases_of_none rfl)
    rw [answered] at reported
    refine ⟨reported.1, reported.2, ?_⟩
    simp only [after]
    exact same
  | remove =>
    obtain ⟨arrives, after⟩ := transparent_delete bare (s := s) named known (e.required told) refresh
    obtain ⟨answered, same⟩ :=
      s.client.store.delete_change index e.id (e.required told) refresh (there change)
    have reported := Change.Result.ofReply_arrived s.client.store
      (x := (s.client.store.delete index e.id (e.required told) refresh).1)
      (arrives.cases_of_none rfl)
    rw [answered] at reported
    refine ⟨reported.1, reported.2, ?_⟩
    simp only [after]
    exact same

/-- Unlike a delete in a bulk request, a delete by itself does not make the index. -/
theorem send_nowhere (named : index ≠ "") {e : Edit} (known : e.id ≠ "")
    (removes : e.change = .remove) (told : List Version) (refresh : RefreshPolicy)
    (missing : s.client.store.hasIndex index = false) :
    let r := e.send index told (transport http) refresh s
    Change.Result.ofReply r.1 = .error .notFound ∧
      r.1.toOption.map Acknowledgement.version = none ∧
      r.2.client.store = s.client.store := by
  have nowhere := (s.client.store.delete_of_missing index e.id missing (e.required told) refresh).2
  obtain ⟨arrives, after⟩ := transparent_delete bare (s := s) named known (e.required told) refresh
  have reported := Change.Result.ofReply_arrived s.client.store
    (x := (s.client.store.delete index e.id (e.required told) refresh).1)
    (arrives.cases_of_none rfl)
  rw [nowhere] at reported
  unfold Edit.send
  simp only [removes]
  refine ⟨reported.1, reported.2, ?_⟩
  simp only [after]
  exact congrArg Prod.snd nowhere

end Loopback

/-! ### Bulk requests -/

/-- A bulk request to a stand-in for which nothing is arranged is its actions. -/
theorem Memory.bulk_unscripted (m : Memory) (unscripted : m.bulkFailures = [])
    (actions : List Action) :
    m.bulk actions =
      let r := { m with bulkCalls := m.bulkCalls ++ [actions] }.applyAll actions
      (.ok r.1, r.2) := by
  dsimp only [bulk]
  split
  · next failing =>
    rw [unscripted] at failing
    cases failing
  · rfl

namespace Edit

variable (index : String) (told : List Version) (e : Edit)

/-- An edit that fits can be sent in a bulk request. -/
theorem complete_action (fits : e.change.Fits) : (e.action index told).sent.Complete := by
  refine Action.complete_sent (fun _ => ?_) fun source => ?_
  · unfold action
    cases e.change <;> rfl
  · revert fits source
    unfold action
    cases e.change with
    | put mode payload =>
      rintro ⟨ms, parsed, -⟩ -
      exact ⟨payload, _, rfl, parsed⟩
    | remove => exact fun _ source => by cases source

/-- The document of an edit is steady if it is sent on one line. -/
theorem steady_action (steady : ∀ mode payload, e.change = .put mode payload →
      octet '\n' ∈ payload → ∀ v, Value.parse? payload = some v → v.Steady)
    (source : (e.action index told).kind.hasSource = true) :
    ∀ bytes ∈ (e.action index told).source, octet '\n' ∈ bytes →
      ∀ v, Value.parse? bytes = some v → v.Steady := by
  revert source
  unfold action
  cases change : e.change with
  | put mode payload =>
    rintro - bytes sent
    cases sent
    exact steady mode payload change
  | remove => exact fun source => by cases source

end Edit

/-- A bulk request over the transport is its actions, after which something may be published. -/
theorem Loopback.bulk_of_few {http : HttpConfig} (bare : Bare http.base)
    {s : Http.Connection Server} {index : String} (named : index ≠ "") {actions : List Action}
    (complete : ∀ a ∈ actions, a.sent.Complete) (refresh : RefreshPolicy)
    (steady : (StoreCall.bulk index actions refresh).Steady s.client.store)
    (few : actions.length ≤ s.client.store.config.maxActions) :
    let r := transport http (.bulk index actions refresh) s
    let applied := s.client.store.applyAll (some index) actions
    r.1 = .ok applied.1 ∧ applied.2.SameDocuments r.2.client.store := by
  have unchanged (a : Action) : Passage.verbatim.action a = a := by
    simp [Passage.action, Passage.verbatim]
  have verbatim : actions.map Passage.verbatim.action = actions := by
    rw [List.map_congr_left fun a _ => unchanged a, List.map_id']
  obtain ⟨arrives, after⟩ := transparent_bulk_of_complete bare (s := s) named complete refresh
  rw [StoreCall.apply_printed _ steady] at arrives after
  simp only [StoreCall.apply, verbatim, Store.bulk_of_few _ _ few] at arrives after
  refine ⟨arrives.eq_answer, ?_⟩
  simp only [after]
  exact Store.sameDocuments_settleAll _ _ _

/-! ## What was told -/

/-- Versions that both sides told, one after another, are mirror images of each other. -/
abbrev Told (epoch : UInt64) (n : Nat) : List Version → List Version → Prop :=
  List.Forall₂ (Version.Mirrors epoch n)

namespace Told

variable {epoch : UInt64} {n n' : Nat} {told told' more more' : List Version}

theorem mono (h : Told epoch n told told') (later : n ≤ n') : Told epoch n' told told' :=
  h.imp fun _ _ versions => versions.mono later

theorem getElem? (h : Told epoch n told told') (i : Nat) :
    Option.Rel (Version.Mirrors epoch n) told[i]? told'[i]? := by
  induction h generalizing i with
  | nil => exact .none
  | cons first _ ih =>
    cases i with
    | zero => exact .some first
    | succ i => simpa using ih i

/-- What an edit expects on both sides are mirror images. -/
theorem required (h : Told epoch n told told') (e : Edit) :
    Option.Rel (Version.Mirrors epoch n) (e.required told) (e.required told') := by
  unfold Edit.required
  cases e.expects with
  | none => exact .none
  | some i => exact h.getElem? i

theorem toList {v v' : Option Version} (h : Option.Rel (Version.Mirrors epoch n) v v') :
    Told epoch n v.toList v'.toList := by
  cases h with
  | none => exact .nil
  | some versions => exact .cons versions .nil

end Told

/-! ## One question -/

namespace Memory.StandsFor

variable {config : StoreConfig} {index : String} {m : Memory} {s : Store}
variable {told told' : List Version}

/-- Nothing was told, and nothing is there, as long as the store has no index. -/
theorem nothing_told (h : m.StandsFor config index s)
    (same : Told config.epoch m.sequence told told') (missing : s.hasIndex index = false) :
    told = [] ∧ told' = [] ∧ ∀ id, m.documents.contains id = false := by
  have nothing : s.indexOrEmpty index = .empty := by
    rw [Store.hasIndex, Table.contains, Option.isSome_eq_false_iff,
      Option.isNone_iff_eq_none] at missing
    rw [Store.indexOrEmpty, missing]
    rfl
  have mirrors := h.mirrors
  rw [nothing] at mirrors
  refine ⟨?_, ?_, mirrors.contains_eq⟩
  all_goals
    cases same with
    | nil => rfl
    | cons first _ =>
      obtain ⟨k, below, -⟩ := first
      rw [mirrors.sequence] at below
      exact absurd below (Nat.not_lt_zero k)

/-- An edit in a bulk request on both sides. -/
theorem apply (h : m.StandsFor config index s) (same : Told config.epoch m.sequence told told')
    {e : Edit} (fits : e.change.Fits) :
    let mine := m.apply (e.action index told)
    let theirs := s.apply (some index) (e.action index told')
    Matched config index e.change (e.required told).isSome m
      (Change.Result.ofItem mine.1, mine.1.outcome.version, mine.2)
      (Change.Result.ofItem theirs.1, theirs.1.outcome.version, theirs.2) := by
  intro mine theirs
  have account := m.apply_account h.mirrors.unscripted.2 index told e
  have account' := s.apply_account index told' fits
  simp only at account account'
  rw [account, account', h.configured]
  exact h.change (h.mirrors.edited e.id fits (same.required e))

/-- The edits of a bulk request on both sides. -/
theorem applyAll (h : m.StandsFor config index s)
    (same : Told config.epoch m.sequence told told') {es : List Edit}
    (fits : ∀ e ∈ es, e.change.Fits) :
    let mine := m.applyAll (es.map (Edit.action index told))
    let theirs := s.applyAll (some index) (es.map (Edit.action index told'))
    MatchingItems (fun e => e.change.Agrees (e.required told).isSome) es mine.1 theirs.1 ∧
      Told config.epoch mine.2.sequence (mine.1.filterMap fun i => i.outcome.version)
        (theirs.1.filterMap fun i => i.outcome.version) ∧
      mine.2.StandsFor config index theirs.2 ∧ m.sequence ≤ mine.2.sequence := by
  induction es generalizing m s with
  | nil => exact ⟨.nil, .nil, h, Nat.le_refl _⟩
  | cons e es ih =>
    have first := h.apply same (fits e List.mem_cons_self)
    obtain ⟨items, versions, after, later⟩ := ih first.standsFor (same.mono first.later)
      fun e he => fits e (List.mem_cons_of_mem _ he)
    refine ⟨.cons first.agrees items, ?_, after, Nat.le_trans first.later later⟩
    -- The first item tells a version on both sides, or on none.
    have told := (Told.toList first.version).mono later
    have items_cons (i : Wire.Item) (is : List Wire.Item) :
        ((i :: is).filterMap fun i => i.outcome.version) =
          i.outcome.version.toList ++ is.filterMap fun i => i.outcome.version := by
      rw [List.filterMap_cons]
      cases i.outcome.version <;> rfl
    simp only [List.map_cons, Memory.applyAll, Store.applyAll, items_cons]
    exact List.rel_append told versions

section Transport

variable {http : HttpConfig} (bare : Loopback.Bare http.base) {s : Http.Connection Server}

include bare

/-- An edit by itself on both sides. -/
theorem edit (h : m.StandsFor config index s.client.store) (named : index ≠ "")
    (same : Told config.epoch m.sequence told told') {e : Edit} (known : e.id ≠ "")
    (fits : e.change.Fits) (refresh : RefreshPolicy) :
    let mine := e.send index told Memory.transport refresh m
    let theirs := e.send index told' (Loopback.transport http) refresh s
    Matched config index e.change (e.required told).isSome m
      (Change.Result.ofReply mine.1, mine.1.toOption.map Acknowledgement.version, mine.2)
      (Change.Result.ofReply theirs.1, theirs.1.toOption.map Acknowledgement.version,
        theirs.2.client.store) := by
  intro mine theirs
  obtain ⟨writes, account⟩ := m.send_account h.mirrors.unscripted.2 index told e refresh
  simp only at account
  rw [account]
  by_cases there : e.change = .remove → s.client.store.hasIndex index = true
  · obtain ⟨result, version, after⟩ :=
      Loopback.send_account bare named known fits told' refresh there
    rw [h.configured] at result version after
    have matched := h.change (h.mirrors.edited e.id fits (same.required e))
    have settled := matched.standsFor.settled after
    rw [result, version]
    exact ⟨matched.agrees, matched.version, ⟨settled.configured,
      settled.mirrors.unscripted, settled.mirrors.sequence, settled.mirrors.documents⟩,
      matched.later⟩
  · obtain ⟨removes, missing⟩ := Classical.not_imp.1 there
    rw [Bool.not_eq_true] at missing
    obtain ⟨rfl, rfl, absent⟩ := h.nothing_told same missing
    have unguarded : (e.required []).isSome = false := by
      unfold Edit.required
      cases e.expects <;> simp
    have gone : m.edited e.id e.change (e.required []) = (.error .notFound, m) := by
      simp only [removes, edited, absent, Bool.not_false, if_true]
    obtain ⟨result, version, after⟩ :=
      Loopback.send_nowhere bare named known removes [] refresh missing
    rw [gone, result, version, after, removes, unguarded]
    exact ⟨rfl, .none, ⟨h.configured, h.mirrors.unscripted, h.mirrors.sequence,
      h.mirrors.documents⟩, Nat.le_refl _⟩

/-- A reading on both sides. -/
theorem get (h : m.StandsFor config index s.client.store) (named : index ≠ "") {id : String}
    (known : id ≠ "") :
    let theirs := Loopback.transport http (.get index id) s
    SameReading (.ok (m.documents.find? id)) theirs.1 ∧
      Told config.epoch m.sequence ((m.documents.find? id).map Stored.version).toList
        (theirs.1.toOption.join.map Stored.version).toList ∧
      theirs.2.client.store = s.client.store := by
  intro theirs
  have shallow : ∀ d, s.client.store.document? index id = some d →
      (∃ bytes, Store.parseSource bytes = .ok d.source) ∧ d.source.depth ≤ 126 := by
    intro d live
    rw [Store.document?] at live
    obtain ⟨-, absent⟩ | ⟨d₀, d', -, there, documents⟩ := h.mirrors.document_cases id
    · rw [absent] at live
      cases live
    · rw [there] at live
      cases live
      exact ⟨⟨_, documents.source⟩, documents.depth⟩
  obtain ⟨arrives, after⟩ := Loopback.transparent_get_of_shallow bare named known shallow
  have unchanged : theirs.2.client.store = s.client.store := by
    simp only [theirs]
    rw [after]
    rfl
  obtain ⟨mine, absent⟩ | ⟨d, d', mine, there, documents⟩ := h.mirrors.document_cases id
  · have nothing : theirs.1 = .ok none := by
      obtain ⟨-, missing | found⟩ | ⟨d', live, -⟩ := s.client.store.get_cases index id
      · simp only [StoreCall.apply, missing] at arrives
        exact arrives.eq_missing rfl rfl
      · simp only [StoreCall.apply, found] at arrives
        exact arrives.eq_answer
      · rw [Store.document?, absent] at live
        cases live
    rw [mine, nothing]
    exact ⟨.nothing, .nil, unchanged⟩
  · have shown : theirs.1 = .ok (some ⟨id, d'.version, d'.source.reread.write⟩) := by
      obtain ⟨absent, -⟩ | ⟨d₀, live, found⟩ := s.client.store.get_cases index id
      · rw [Store.document?, there] at absent
        cases absent
      · rw [Store.document?, there] at live
        cases live
        simp only [StoreCall.apply, found] at arrives
        exact arrives.eq_answer
    rw [mine, shown]
    exact ⟨.document documents.id.symm (Store.parse?_of_parseSource documents.source) rfl,
      .cons documents.version .nil, unchanged⟩

/-- A bulk request on both sides. -/
theorem bulk (h : m.StandsFor config index s.client.store) (named : index ≠ "")
    (same : Told config.epoch m.sequence told told') {es : List Edit} (refresh : RefreshPolicy)
    (fits : (Ask.bulk es refresh).Fits config) :
    let a := Ask.bulk es refresh
    let mine := a.send Memory.transport index told m
    let theirs := a.send (Loopback.transport http) index told' s
    a.Matches (fun e => e.change.Agrees (e.required told).isSome) mine.1 theirs.1 ∧
      Told config.epoch mine.2.sequence (a.versions mine.1) (a.versions theirs.1) ∧
      mine.2.StandsFor config index theirs.2.client.store ∧ m.sequence ≤ mine.2.sequence := by
  intro a mine theirs
  obtain ⟨few, fits⟩ := fits
  have complete : ∀ action ∈ es.map (Edit.action index told'), action.sent.Complete := by
    intro action among
    obtain ⟨e, he, rfl⟩ := List.mem_map.1 among
    exact e.complete_action index told' (fits e he).2.1
  have steady : (StoreCall.bulk index (es.map (Edit.action index told')) refresh).Steady
      s.client.store := by
    intro action among
    obtain ⟨e, he, rfl⟩ := List.mem_map.1 among
    exact e.steady_action index told' (fits e he).2.2
  -- The stand-in keeps record of the request first.
  have recorded : StandsFor config index
      { m with bulkCalls := m.bulkCalls ++ [es.map (Edit.action index told)] } s.client.store :=
    ⟨h.configured, h.mirrors.unscripted, h.mirrors.sequence, h.mirrors.documents⟩
  obtain ⟨items, versions, after, later⟩ :=
    recorded.applyAll same fun e he => (fits e he).2.1
  have answered := m.bulk_unscripted h.mirrors.unscripted.1 (es.map (Edit.action index told))
  obtain ⟨replied, settled⟩ := Loopback.bulk_of_few bare named complete refresh steady
    (by rwa [List.length_map, h.configured])
  have mine_eq : mine = _ := answered
  have theirs_eq : theirs.1 = _ := replied
  rw [mine_eq, theirs_eq]
  exact ⟨⟨_, _, rfl, rfl, items⟩, versions, after.settled settled, later⟩

/-- What is asked keeps the stand-in the mirror of the index, and the replies go together. -/
theorem send (h : m.StandsFor config index s.client.store) (named : index ≠ "")
    (same : Told config.epoch m.sequence told told') (a : Ask) (fits : a.Fits config) :
    let mine := a.send Memory.transport index told m
    let theirs := a.send (Loopback.transport http) index told' s
    a.Matches (fun e => e.change.Agrees (e.required told).isSome) mine.1 theirs.1 ∧
      Told config.epoch mine.2.sequence (a.versions mine.1) (a.versions theirs.1) ∧
      mine.2.StandsFor config index theirs.2.client.store ∧ m.sequence ≤ mine.2.sequence := by
  intro mine theirs
  cases a with
  | get id =>
    obtain ⟨reading, versions, unchanged⟩ := h.get bare named (s := s) fits
    refine ⟨reading, versions, ?_, Nat.le_refl _⟩
    exact unchanged.symm ▸ h
  | edit e refresh =>
    have matched := h.edit bare named same fits.1 fits.2 refresh
    exact ⟨matched.agrees, Told.toList matched.version, matched.standsFor, matched.later⟩
  | bulk es refresh => exact h.bulk bare named same refresh fits

end Transport

end Memory.StandsFor

/-! ## Any questions -/

/-- Before anything is asked, a stand-in without documents is the mirror of any index. -/
theorem Memory.standsFor_empty (config : StoreConfig) {ids : NameSupply} (index : String) :
    ({} : Memory).StandsFor config index (Store.empty config ids) :=
  ⟨rfl, ⟨⟨rfl, rfl⟩, rfl, fun _ => .none⟩⟩

theorem Ask.rounds_standsFor {config : StoreConfig} {http : HttpConfig}
    (bare : Loopback.Bare http.base) {index : String} (named : index ≠ "") {as : List Ask}
    (fits : ∀ a ∈ as, a.Fits config) {m : Memory} {s : Http.Connection Server}
    {told told' : List Version} (h : m.StandsFor config index s.client.store)
    (same : Told config.epoch m.sequence told told') :
    ∀ r ∈ Ask.rounds Memory.transport (Loopback.transport http) index as told told' m s,
      r.ask.Matches (fun e => e.change.Agrees (e.required r.told).isSome) r.mine r.theirs ∧
        r.left.StandsFor config index r.right.client.store := by
  induction as generalizing m s told told' with
  | nil => exact fun r hr => nomatch hr
  | cons a as ih =>
    obtain ⟨replies, versions, after, later⟩ :=
      h.send bare named same a (fits a List.mem_cons_self)
    intro r hr
    obtain rfl | hr := List.mem_cons.1 hr
    · exact ⟨replies, after⟩
    · exact ih (fun a ha => fits a (List.mem_cons_of_mem _ ha)) after
        (List.rel_append (same.mono later) versions) r hr

theorem Ask.map_ask_rounds {σ τ : Type} (t : Transport σ) (t' : Transport τ) (index : String)
    (as : List Ask) (told told' : List Version) (s : σ) (s' : τ) :
    (Ask.rounds t t' index as told told' s s').map Round.ask = as := by
  induction as generalizing told told' s s' with
  | nil => rfl
  | cons a as ih => exact congrArg (a :: ·) (ih ..)

/-- A stand-in and a store that were not asked for anything yet, and what they are asked then. -/
abbrev Ask.trial (http : HttpConfig) (config : StoreConfig) (index : String) (asks : List Ask)
    (ids : NameSupply := .documents) (handles : NameSupply := .cursors) :
    List (Round Memory (Http.Connection Server)) :=
  rounds Memory.transport (Loopback.transport http) index asks [] [] {}
    ⟨Server.empty config ids handles, none⟩

/-- Whatever a stand-in and a fresh store are asked about one index, each expecting versions that it
told itself: their replies go together, and after each of them they hold the same documents. Edits
come to the same, except that a guarded create is a conflict for the stand-in and a wrong request
for the store, and a guarded delete of what is missing is not found by the stand-in and a conflict
for the store. -/
theorem Memory.stands_in {http : HttpConfig} (bare : Loopback.Bare http.base) (config : StoreConfig)
    {ids handles : NameSupply} {index : String} (named : index ≠ "") (asks : List Ask)
    (fits : ∀ a ∈ asks, a.Fits config) :
    (Ask.trial http config index asks ids handles).map Ask.Round.ask = asks ∧
      ∀ r ∈ Ask.trial http config index asks ids handles,
        r.ask.Matches (fun e => e.change.Agrees (e.required r.told).isSome) r.mine r.theirs ∧
          r.left.Holds index r.right.client.store := by
  refine ⟨Ask.map_ask_rounds .., fun r hr => ?_⟩
  obtain ⟨replies, after⟩ :=
    Ask.rounds_standsFor bare named fits (Memory.standsFor_empty config index) .nil r hr
  exact ⟨replies, after.holds⟩

/-- A document is created, read, replaced, refused to be created again, and removed. -/
def Ask.samples : List Ask :=
  [.edit ⟨"a", .put .create (Utf8.encode "\x7b\x7d"), none, false⟩ .none, .get "a",
    .bulk [⟨"a", .put .index (Utf8.encode "\x7b\n\x7d"), some 0, true⟩,
      ⟨"b", .remove, some 1, false⟩, ⟨"a", .put .create (Utf8.encode "\x7b\x7d"), some 0, false⟩]
      .immediate,
    .edit ⟨"a", .remove, some 2, false⟩ .waitFor]

theorem Memory.stands_in_samples :
    (Loopback.Bare Repository.nearby.base ∧ "things" ≠ "" ∧ ∀ a ∈ Ask.samples, a.Fits {}) ∧
      ∀ r ∈ Ask.trial Repository.nearby {} "things" Ask.samples,
        r.ask.Matches (fun e => e.change.Agrees (e.required r.told).isSome) r.mine r.theirs ∧
          r.left.Holds "things" r.right.client.store := by
  have bare : Loopback.Bare Repository.nearby.base := ⟨"a".toList, by decide +kernel, by decide⟩
  have named : "things" ≠ "" := by decide
  have short : ∀ mode, (Change.put mode (Utf8.encode "\x7b\x7d")).Fits :=
    fun _ => ⟨[], rfl, by decide⟩
  have long : ∀ mode, (Change.put mode (Utf8.encode "\x7b\n\x7d")).Fits :=
    fun _ => ⟨[], rfl, by decide⟩
  have removed : ∀ mode payload, Change.remove ≠ .put mode payload := by simp
  have fits : ∀ a ∈ Ask.samples, a.Fits {} := by
    simp only [Ask.samples, List.forall_mem_cons, Ask.Fits]
    refine ⟨⟨by decide, short _⟩, by decide, ⟨by decide, ⟨by decide, long _, ?_⟩,
      ⟨by decide, trivial, ?_⟩, ⟨by decide, short _, ?_⟩, List.forall_mem_nil _⟩,
      ⟨by decide, trivial⟩, List.forall_mem_nil _⟩
    · intro mode payload put _ v parsed
      cases put
      have empty : Value.parse? (Utf8.encode "\x7b\n\x7d") = some (.object []) := rfl
      cases empty.symm.trans parsed
      exact trivial
    · intro mode payload put
      exact absurd put (removed mode payload)
    · intro mode payload put sent
      cases put
      exact absurd sent (by decide)
  exact ⟨⟨bare, named, fits⟩, (stands_in bare {} named Ask.samples fits).2⟩

/-- Whether a stand-in and a fresh store cannot be told apart by these questions: all edits come to
the same on both sides, and they always hold the same documents. -/
def Ask.Indistinguishable (config : StoreConfig) (index : String) (asks : List Ask) : Prop :=
  ∀ r ∈ trial Repository.nearby config index asks,
    r.ask.Matches (fun _ mine theirs => theirs = mine) r.mine r.theirs ∧
      r.left.Holds index r.right.client.store

/-- Whether two sides give replies of different kinds, or an edit comes to something else. -/
def Ask.Round.differs {σ τ : Type} : Ask.Round σ τ → Bool
  | ⟨.get _, _, _, theirs, _, _⟩ => theirs.toOption.isNone
  | ⟨.edit .., _, mine, theirs, _, _⟩ =>
    Change.Result.ofReply theirs != Change.Result.ofReply mine
  | ⟨.bulk .., _, _, theirs, _, _⟩ => theirs.toOption.isNone

theorem Ask.not_indistinguishable {config : StoreConfig} {index : String} {asks : List Ask}
    (h : (trial Repository.nearby config index asks).any Round.differs = true) :
    ¬ Indistinguishable config index asks := by
  intro same
  obtain ⟨r, hr, differs⟩ := List.any_eq_true.1 h
  have replies := (same r hr).1
  obtain ⟨ask, told, mine, theirs, left, right⟩ := r
  cases ask with
  | get id =>
    have answered : theirs.toOption.isNone = false := by cases replies <;> rfl
    rw [Round.differs, answered] at differs
    cases differs
  | edit e refresh =>
    have equal : Change.Result.ofReply theirs = Change.Result.ofReply mine := replies
    rw [Round.differs, equal, bne_self_eq_false] at differs
    cases differs
  | bulk es refresh =>
    obtain ⟨is, is', -, rfl, -⟩ := replies
    cases differs

/-- Without its exceptions and conditions the statement fails: for a guarded delete of what is
missing, a guarded create, a bulk request that is too large, an index without a name, a number that
is out of range, a document that nests too deeply to be shown, and a number that is printed as
another one when a document is put on one line. -/
theorem Memory.stands_apart :
    let short := Utf8.encode "\x7b\x7d"
    let put (payload : Bytes) : Edit := ⟨"a", .put .index payload, none, false⟩
    ¬ Ask.Indistinguishable {} "things"
        [.edit (put short) .none, .edit ⟨"a", .remove, none, false⟩ .none,
          .edit ⟨"a", .remove, some 0, false⟩ .none] ∧
      ¬ Ask.Indistinguishable {} "things"
        [.edit (put short) .none, .edit ⟨"a", .put .create short, some 0, false⟩ .none] ∧
      ¬ Ask.Indistinguishable { maxActions := 0 } "things" [.bulk [put short] .none] ∧
      ¬ Ask.Indistinguishable {} "" [.edit (put short) .none] ∧
      ¬ Ask.Indistinguishable {} "things"
        [.edit (put (Utf8.encode "\x7b\"x\":1e999\x7d")) .none] ∧
      ¬ Ask.Indistinguishable {} "things"
        [.edit (put (Utf8.encode "\x7b\"x\":" ++ List.replicate 126 (octet '[') ++
          List.replicate 126 (octet ']') ++ Utf8.encode "\x7d")) .none, .get "a"] ∧
      ¬ Ask.Indistinguishable {} "things"
        [.bulk [put (Utf8.encode "\x7b\"x\":\n7263450810061301e32\x7d")] .none] := by
  intro short put
  refine ⟨Ask.not_indistinguishable (by decide +kernel),
    Ask.not_indistinguishable (by decide +kernel), Ask.not_indistinguishable (by decide +kernel),
    Ask.not_indistinguishable (by decide +kernel), Ask.not_indistinguishable (by decide +kernel),
    Ask.not_indistinguishable (by decide +kernel), fun same => ?_⟩
  have documents := congrArg (Option.map (Option.map Value.write)) ((same _ List.mem_cons_self).2 "a")
  revert documents
  decide +kernel

end VersionedStore
