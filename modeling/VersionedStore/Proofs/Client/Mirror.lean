import VersionedStore.Client.Memory
import VersionedStore.Proofs.Client.Transparency
import VersionedStore.Proofs.Store.Singly

/-!
# A stand-in beside an index

A stand-in for a store and an index that are asked for the same changes. The stand-in numbers its
writes from one, the index from zero; where both started without documents, their versions and
documents stay mirror images of each other. Each decides by checks of its own, in an order of its
own: the index refuses every guarded create and looks at the guard of a delete first, while the
stand-in looks first whether the document is there. So they differ in why they refuse such a
change, and in nothing else.

## Main definitions

* `Version.Mirrors`, `Stored.Mirrors`, `Memory.Mirrors` — a stand-in as the mirror of an index
* `Change` — what becomes of a document
* `Memory.edited`, `Index.edited` — what a change does to a stand-in, and to an index
* `Change.Agrees` — how the results of both sides on a change go together

## Main results

* `Memory.Mirrors.edited` — a change keeps a stand-in the mirror of an index, and the results agree
-/

namespace VersionedStore

open Json

/-! ## Versions and documents -/

/-- Versions that a stand-in and an index gave to the same one of their first `n` writes. -/
def Version.Mirrors (epoch : UInt64) (n : Nat) (v v' : Version) : Prop :=
  ∃ k, k < n ∧ v = ⟨1, UInt64.ofNat (k + 1)⟩ ∧ v' = ⟨epoch, UInt64.ofNat k⟩

namespace Version.Mirrors

variable {epoch : UInt64} {n n' : Nat} {v v' w w' : Version}

theorem mono (h : Mirrors epoch n v v') (more : n ≤ n') : Mirrors epoch n' v v' := by
  obtain ⟨k, hk, rfl, rfl⟩ := h
  exact ⟨k, Nat.lt_of_lt_of_le hk more, rfl, rfl⟩

/-- Versions are the same on one side if their mirror images are on the other. -/
theorem eq_iff (h : Mirrors epoch n v v') (h' : Mirrors epoch n w w') : v = w ↔ v' = w' := by
  obtain ⟨j, -, rfl, rfl⟩ := h
  obtain ⟨k, -, rfl, rfl⟩ := h'
  simp only [Version.mk.injEq, true_and, UInt64.ofNat_add, UInt64.add_left_inj]

end Version.Mirrors

/-- A document of a stand-in and one of an index that are mirror images. -/
structure Stored.Mirrors (epoch : UInt64) (n : Nat) (id : String) (d : Stored) (d' : Document) :
    Prop where
  id : d.id = id
  version : Version.Mirrors epoch n d.version d'.version
  source : Store.parseSource d.source = .ok d'.source
  depth : d'.source.depth ≤ 126

theorem Stored.Mirrors.mono {epoch : UInt64} {n n' : Nat} {id : String} {d : Stored}
    {d' : Document} (h : d.Mirrors epoch n id d') (more : n ≤ n') : d.Mirrors epoch n' id d' :=
  ⟨h.id, h.version.mono more, h.source, h.depth⟩

/-- A stand-in for which nothing is arranged, as the mirror of an index. -/
structure Memory.Mirrors (epoch : UInt64) (m : Memory) (ix : Index) : Prop where
  unscripted : m.bulkFailures = [] ∧ m.forcedConflicts = 0
  sequence : m.sequence = ix.writes
  documents : ∀ id, Option.Rel (Stored.Mirrors epoch m.sequence id)
    (m.documents.find? id) (ix.live.find? id)

/-! ## Changes -/

/-- What becomes of a document. -/
inductive Change
  /-- It is put there. -/
  | put (mode : WriteMode) (payload : Bytes)
  /-- It is removed. -/
  | remove
deriving DecidableEq

/-- A change that both sides can carry out: what is put is an object that is read, and does not nest
more deeply than an answer can show it. -/
def Change.Fits : Change → Prop
  | .put _ payload => ∃ ms, Value.parse? payload = some (.object ms) ∧
      (Value.object ms).depth ≤ 126
  | .remove => True

/-- What a change came to: what was done, in a word, or the kind of the failure. -/
abbrev Change.Result : Type := Except FailureKind String

/-- How the results of a stand-in and of a store on one change go together. Both refuse a guarded
create, and a guarded delete of what is missing, each for a reason of its own. -/
def Change.Agrees (guarded : Bool) : Change → Result → Result → Prop
  | .put .create _, mine, theirs =>
    if guarded then mine = .error .conflict ∧ theirs = .error .other else theirs = mine
  | .put .index _, mine, theirs => theirs = mine
  | .remove, mine, theirs =>
    if guarded ∧ mine = .error .notFound then theirs = .error .conflict else theirs = mine

namespace Memory

/-- What a change does to a document of a stand-in for which nothing is arranged: the word and the
version, or the kind of the failure. -/
def edited (m : Memory) (id : String) (c : Change) (required : Option Version) :
    Except FailureKind (String × Version) × Memory :=
  match c with
  | .put mode payload =>
    if mode = .create ∧ m.documents.contains id then (.error .conflict, m)
    else if (m.mismatch? id required).isSome then (.error .conflict, m)
    else (.ok ((m.writeResult id).2, (m.put id payload).1), (m.put id payload).2)
  | .remove =>
    if !m.documents.contains id then (.error .notFound, m)
    else if (m.mismatch? id required).isSome then (.error .conflict, m)
    else (.ok ("deleted", (m.remove id).1), (m.remove id).2)

end Memory

/-- What a change does to a document of an index. -/
def Index.edited (ix : Index) (epoch : UInt64) (id : String) (c : Change)
    (required : Option Version) : Except StoreError (Written × Index) :=
  match c with
  | .put mode payload =>
    match Store.parseSource payload with
    | .error e => .error e
    | .ok v => ix.put epoch mode id required v
  | .remove => ix.remove epoch id required

namespace Memory

/-- What a change comes to on both sides: it is refused and leaves everything as it was, or it is
done on both. -/
inductive Edited (epoch : UInt64) (c : Change) (guarded : Bool) (m : Memory) :
    Except FailureKind (String × Version) × Memory → Except StoreError (Written × Index) → Prop
  | done {word : String} {v : Version} {m' : Memory} {w : Written} {ix' : Index}
    (agrees : c.Agrees guarded (.ok word) (.ok w.result.word))
    (version : Version.Mirrors epoch m'.sequence v w.version) (mirrors : m'.Mirrors epoch ix')
    (later : m.sequence ≤ m'.sequence) :
    Edited epoch c guarded m (.ok (word, v), m') (.ok (w, ix'))
  | refused {kind : FailureKind} {e : StoreError}
    (agrees : c.Agrees guarded (.error kind) (.error (.ofStatus e.status))) :
    Edited epoch c guarded m (.error kind, m) (.error e)

end Memory

namespace Memory.Mirrors

variable {epoch : UInt64} {m : Memory} {ix : Index}

/-- A document is missing on both sides, or there on both. -/
theorem document_cases (h : m.Mirrors epoch ix) (id : String) :
    (m.documents.find? id = none ∧ ix.live.find? id = none) ∨
      ∃ d d', m.documents.find? id = some d ∧ ix.live.find? id = some d' ∧
        d.Mirrors epoch m.sequence id d' := by
  have documents := h.documents id
  revert documents
  cases m.documents.find? id <;> cases ix.live.find? id <;> intro documents <;> cases documents
  · exact .inl ⟨rfl, rfl⟩
  · next d d' documents => exact .inr ⟨d, d', rfl, rfl, documents⟩

/-- What was mirrored stays so when more is written. -/
theorem documents_mono (h : m.Mirrors epoch ix) {n : Nat} (more : m.sequence ≤ n) (id : String) :
    Option.Rel (Stored.Mirrors epoch n id) (m.documents.find? id) (ix.live.find? id) := by
  obtain ⟨mine, theirs⟩ | ⟨d, d', mine, theirs, documents⟩ := h.document_cases id
  · rw [mine, theirs]
    exact .none
  · rw [mine, theirs]
    exact .some (documents.mono more)

theorem contains_eq (h : m.Mirrors epoch ix) (id : String) :
    m.documents.contains id = (ix.live.find? id).isSome := by
  rw [Table.contains]
  obtain ⟨mine, theirs⟩ | ⟨d, d', mine, theirs, -⟩ := h.document_cases id <;> rw [mine, theirs] <;>
    rfl

/-- The guards of both sides hold together; a guard that fails is given. -/
theorem guard (h : m.Mirrors epoch ix) (id : String) {r r' : Option Version}
    (same : Option.Rel (Version.Mirrors epoch m.sequence) r r') :
    ((m.mismatch? id r).isSome = true ∧ r.isSome = true ∧
        ∃ reason, ix.current id r' = .error (.conflict id reason)) ∨
      ((m.mismatch? id r).isSome = false ∧ ix.current id r' = .ok (ix.live.find? id) ∧
        (r.isSome = true → (ix.live.find? id).isSome = true)) := by
  unfold mismatch? Index.current
  cases same with
  | none => exact .inr ⟨rfl, rfl, fun h => by cases h⟩
  | @some v v' versions =>
    obtain ⟨mine, theirs⟩ | ⟨d, d', mine, theirs, documents⟩ := h.document_cases id
    · rw [mine, theirs]
      exact .inl ⟨rfl, rfl, _, rfl⟩
    · rw [mine, theirs]
      have together := documents.version.eq_iff versions
      by_cases current : d.version = v
      · refine .inr ⟨?_, ?_, fun _ => rfl⟩
        · simp only [if_pos current, Option.isSome_none]
        · simp only [if_pos (together.1 current)]
      · refine .inl ⟨?_, rfl, _, if_neg fun current' => current (together.2 current')⟩
        simp only [if_neg current, Option.isSome_some]

/-- The next write of both sides makes mirror images. -/
theorem draw (h : m.Mirrors epoch ix) :
    Version.Mirrors epoch (m.sequence + 1) m.draw.1 (ix.nextVersion epoch) :=
  ⟨m.sequence, Nat.lt_succ_self _, rfl, by rw [Index.nextVersion, h.sequence]⟩

theorem put (h : m.Mirrors epoch ix) (id : String) {payload : Bytes} {v : Value}
    (parsed : Store.parseSource payload = .ok v) (shallow : v.depth ≤ 126) :
    (m.put id payload).2.Mirrors epoch
      (ix.written (ix.live.insert id ⟨ix.nextVersion epoch, v⟩)) where
  unscripted := h.unscripted
  sequence := congrArg (· + 1) h.sequence
  documents other := by
    simp only [Memory.put, Memory.draw, Index.written, Table.find?_insert]
    split
    · next same =>
      rw [same]
      exact .some ⟨rfl, h.draw, parsed, shallow⟩
    · exact h.documents_mono (Nat.le_succ _) other

theorem remove (h : m.Mirrors epoch ix) (id : String) :
    (m.remove id).2.Mirrors epoch (ix.written (ix.live.erase id)) where
  unscripted := h.unscripted
  sequence := congrArg (· + 1) h.sequence
  documents other := by
    simp only [Memory.remove, Memory.draw, Index.written, Table.find?_erase]
    split
    · exact .none
    · exact h.documents_mono (Nat.le_succ _) other

/-- Only the live documents and the number of writes of an index have a mirror image. -/
theorem congr {ix' : Index} (h : m.Mirrors epoch ix) (live : ix'.live = ix.live)
    (writes : ix'.writes = ix.writes) : m.Mirrors epoch ix' where
  unscripted := h.unscripted
  sequence := h.sequence.trans writes.symm
  documents id := live ▸ h.documents id

/-! ## One change -/

variable {r r' : Option Version}

section Put

variable {payload : Bytes} {v : Value}

/-- A put that both sides carry out. -/
theorem edited_done (h : m.Mirrors epoch ix) (id : String) {c : Change} {guarded : Bool}
    (parsed : Store.parseSource payload = .ok v) (shallow : v.depth ≤ 126) {word : String}
    {result : WriteResult} (agrees : c.Agrees guarded (.ok word) (.ok result.word)) :
    Edited epoch c guarded m (.ok (word, (m.put id payload).1), (m.put id payload).2)
      (.ok (⟨id, ix.nextVersion epoch, result⟩,
        ix.written (ix.live.insert id ⟨ix.nextVersion epoch, v⟩))) :=
  .done agrees h.draw (h.put id parsed shallow) (Nat.le_succ _)

/-- A put in place of what is there, on both sides. -/
theorem edited_index (h : m.Mirrors epoch ix) (id : String)
    (parsed : Store.parseSource payload = .ok v) (shallow : v.depth ≤ 126)
    (same : Option.Rel (Version.Mirrors epoch m.sequence) r r') :
    Edited epoch (.put .index payload) r.isSome m (m.edited id (.put .index payload) r)
      (ix.put epoch .index id r' v) := by
  have there := h.contains_eq id
  unfold Memory.edited Index.put writeResult
  obtain ⟨mismatch, -, reason, failed⟩ | ⟨fits, passed, -⟩ := h.guard id same
  · simp only [failed, mismatch, reduceCtorEq, false_and, if_true, if_false]
    exact .refused rfl
  · simp only [passed, fits, there, reduceCtorEq, false_and, Bool.false_eq_true, if_false]
    cases ix.live.find? id with
    | none => exact h.edited_done id parsed shallow rfl
    | some d => exact h.edited_done id parsed shallow rfl

/-- A put of what must be new, on both sides. -/
theorem edited_create (h : m.Mirrors epoch ix) (id : String)
    (parsed : Store.parseSource payload = .ok v) (shallow : v.depth ≤ 126)
    (same : Option.Rel (Version.Mirrors epoch m.sequence) r r') :
    Edited epoch (.put .create payload) r.isSome m (m.edited id (.put .create payload) r)
      (ix.put epoch .create id r' v) := by
  have there := h.contains_eq id
  unfold Memory.edited Index.put writeResult
  cases same with
  | @some w w' versions =>
    have same : Option.Rel (Version.Mirrors epoch m.sequence) (some w) (some w') := .some versions
    have refused : Edited epoch (.put .create payload) true m (.error .conflict, m)
        (.error (.request .guardedCreate)) := .refused ⟨rfl, rfl⟩
    simp only [Option.isSome_some, and_self, if_true, true_and, there]
    -- The index refuses the guard; the stand-in refuses what is there, and what is missing.
    by_cases found : (ix.live.find? id).isSome = true
    · rw [if_pos found]
      exact refused
    · obtain ⟨mismatch, -⟩ | ⟨-, -, given⟩ := h.guard id same
      · rw [if_neg found, if_pos mismatch]
        exact refused
      · exact absurd (given rfl) found
  | none =>
    simp only [Index.current, there, mismatch?, true_and, Option.isSome_none, Bool.false_eq_true,
      and_false, if_false]
    cases ix.live.find? id with
    | none => exact h.edited_done id parsed shallow rfl
    | some d => exact .refused rfl

end Put

/-- A delete on both sides. -/
theorem edited_remove (h : m.Mirrors epoch ix) (id : String)
    (same : Option.Rel (Version.Mirrors epoch m.sequence) r r') :
    Edited epoch .remove r.isSome m (m.edited id .remove r) (ix.remove epoch id r') := by
  have there := h.contains_eq id
  unfold Memory.edited Index.remove
  obtain ⟨mismatch, guarded, reason, failed⟩ | ⟨fits, passed, given⟩ := h.guard id same
  · simp only [failed, mismatch, guarded, if_true]
    -- The guard fails on both sides, but the stand-in asks first what is there.
    split
    · exact .refused rfl
    · exact .refused rfl
  · simp only [passed, fits, there, Bool.false_eq_true, if_false]
    cases found : ix.live.find? id with
    | none =>
      have unguarded : r.isSome = false := by
        rw [found] at given
        exact Bool.eq_false_iff.2 fun guarded => absurd (given guarded) Bool.false_ne_true
      rw [unguarded]
      exact .refused rfl
    | some d =>
      have agrees : Change.remove.Agrees r.isSome (.ok "deleted") (.ok WriteResult.deleted.word) := by
        rw [Change.Agrees, if_neg (by simp)]
        rfl
      exact .done agrees h.draw (h.remove id) (Nat.le_succ _)

/-- A change that fits keeps a stand-in the mirror of an index, and what it comes to agrees. -/
theorem edited (h : m.Mirrors epoch ix) (id : String) {c : Change} (fits : c.Fits)
    (same : Option.Rel (Version.Mirrors epoch m.sequence) r r') :
    Edited epoch c r.isSome m (m.edited id c r) (ix.edited epoch id c r') := by
  cases c with
  | put mode payload =>
    obtain ⟨ms, parsed, shallow⟩ := fits
    have source : Store.parseSource payload = .ok (.object ms) := by
      rw [Store.parseSource, parsed]
    simp only [Index.edited, source]
    cases mode with
    | create => exact h.edited_create id source shallow same
    | index => exact h.edited_index id source shallow same
  | remove => exact h.edited_remove id same

end Memory.Mirrors

end VersionedStore
