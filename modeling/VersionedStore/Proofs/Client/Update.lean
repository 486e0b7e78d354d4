import VersionedStore.Client.Interleave
import VersionedStore.Client.Update
import VersionedStore.Proofs.Client.Calls
import VersionedStore.Proofs.Store.Versions

/-!
# One step of an update

An update reads, and then writes on condition that the version is still the one that it read.
Between the two anything may happen. As a version that is still there stands for the document
that was read, a write that is accepted puts the changed document in place of the live one.

## Main definitions

* `Codec.Canonical` — a codec that sees values, not their octets
* `UpdateClient` — a client that makes one update over loopback
* `UpdateClient.Ready`, `UpdateClient.Phase` — what holds of a client between its steps
* `UpdateClient.Replaces` — a document was replaced by its change, and nothing else was touched

## Main results

* `UpdateClient.Phase.of_evolves` — what others do leaves a client in its phase
* `UpdateClient.step_cases` — a step of a client leaves all documents as they are, or it is the
  one in which the document is replaced and the update is acknowledged
-/

namespace VersionedStore

open Json

/-- A codec that sees the value of a document, not its octets. What was encoded is read back from
the value that a store makes of it, in whatever order and spacing this is written; and to write the
value and to read it again makes no difference. -/
structure Codec.Canonical {α : Type} (c : Codec α) : Prop where
  encoded : ∀ a payload v, c.encode a = .ok payload → Store.parseSource payload = .ok v →
    c.decode v.write = .ok a
  reread : ∀ bytes v level v', Store.parseSource bytes = .ok v →
    Value.ofText? level v.toText = some v' → c.decode v'.write = c.decode v.write

/-- A client that makes one update over loopback. -/
structure UpdateClient where
  /-- The documents that it works on. -/
  Document : Type
  /-- How it reaches the server. -/
  http : HttpConfig
  /-- How it makes updates. -/
  updater : Updater Document
  /-- The document. -/
  id : String
  /-- What is to become of the document. -/
  change : Document → Document

namespace UpdateClient

variable (c : UpdateClient)

def program : Program (Except ClientError Updated) := c.updater.update c.id c.change

def document? (s : Store) : Option VersionedStore.Document := s.document? c.updater.index c.id

/-- A document was replaced by its change, under the version that was acknowledged, and no other
document was touched. -/
def Replaces (u : Updated) (s s' : Store) : Prop :=
  ∃ old new a, c.document? s = some old ∧ c.updater.codec.decode old.source.write = .ok a ∧
    c.document? s' = some new ∧ c.updater.codec.decode new.source.write = .ok (c.change a) ∧
    new.version = u.acknowledgement.version ∧
    ∀ name id, (name, id) ≠ (c.updater.index, c.id) → s'.document? name id = s.document? name id

/-! ## Phases -/

/-- A client may write: the version that it expects was made before, and if it is still the one of
the document then what is sent is the change of the document. Without an index or an id nothing
can be written. -/
def Ready (s : Store) (payload : Bytes) (v : Version) : Prop :=
  c.updater.index ≠ "" → c.id ≠ "" →
    (∃ n < s.writes c.updater.index, v = s.numbered n) ∧
    ∀ d, c.document? s = some d → d.version = v →
      ∃ a, c.updater.codec.decode d.source.write = .ok a ∧
        c.updater.codec.encode (c.change a) = .ok payload

/-- Where a client may be: it is done, it is about to read, or it is about to write. -/
inductive Phase (s : Store) : Program (Except ClientError Updated) → Prop
  | ended (r : Except ClientError Updated) : Phase s (.done r)
  | reading (left : Nat) (a : Attempts) : Phase s (c.updater.rounds c.id c.change left a)
  | writing (payload : Bytes) (v : Version)
      (next : Except ClientError Acknowledgement → Program (Except ClientError Updated))
      (ready : c.Ready s payload v)
      (acknowledged : ∀ w, ∃ made, next (.ok w) = .done (.ok ⟨w, made⟩))
      (refused : ∀ e, (∃ e', next (.error e) = .done (.error e')) ∨
        ∃ left a, next (.error e) = c.updater.rounds c.id c.change left a) :
      Phase s (.call (.write c.updater.index (c.updater.request c.id payload v)) next)

variable {c} {s s' : Store} {log : List Receipt}

/-- A client that may write may still do so after anything else. -/
theorem Ready.of_evolves {payload : Bytes} {v : Version} (h : c.Ready s payload v)
    (evolves : s.Evolves log s') (few : s'.writes c.updater.index ≤ UInt64.size) :
    c.Ready s' payload v := by
  intro named known
  obtain ⟨⟨n, hn, hv⟩, same⟩ := h named known
  -- If the version is still there, then so is the document that was read, since versions that are
  -- made later have greater numbers.
  refine ⟨⟨n, Nat.lt_of_lt_of_le hn (evolves.writes_le _), by rw [evolves.numbered_eq, hv]⟩, ?_⟩
  intro d found version
  exact same d (evolves.same_of_version few hn found (by rw [version, hv])) version

/-- What others do leaves a client in its phase. -/
theorem Phase.of_evolves {p : Program (Except ClientError Updated)} (h : c.Phase s p)
    (evolves : s.Evolves log s') (few : s'.writes c.updater.index ≤ UInt64.size) :
    c.Phase s' p := by
  cases h with
  | ended r => exact .ended r
  | reading left a => exact .reading left a
  | writing payload v next ready acknowledged refused =>
    exact .writing payload v next (ready.of_evolves evolves few) acknowledged refused

theorem phase_program : c.Phase s c.program := .reading _ _

/-- No round ends in an acknowledgement before it has begun. -/
theorem rounds_ne_ok (left : Nat) (a : Attempts) (u : Updated) :
    c.updater.rounds c.id c.change left a ≠ .done (.ok u) := by
  cases left <;> simp [Updater.rounds]

/-! ## Steps -/

variable (bare : Loopback.Bare c.http.base) (canonical : c.updater.codec.Canonical)
  (conn : Http.Connection Server)

include bare canonical

/-- What is sent after a document was read is the change of the live document. -/
theorem ready_of_read (sound : conn.client.store.Sound) (read : Stored) (payload : Bytes)
    (h : (Loopback.transport c.http (.get c.updater.index c.id) conn).1 = .ok (some read))
    (revised : c.updater.codec.revise c.change read.source = .ok payload) :
    c.Ready conn.client.store payload read.version := by
  intro named known
  have objects : ∀ d, conn.client.store.document? c.updater.index c.id = some d →
      ∃ ms, d.source = .object ms := by
    intro d found
    obtain ⟨bytes, hbytes⟩ := (sound _ _ d found).2
    obtain ⟨ms, source, -⟩ := Store.object_of_parseSource hbytes
    exact ⟨ms, source⟩
  obtain ⟨d, source, found, version, again, octets⟩ :=
    Loopback.transport_get bare conn named known objects h
  obtain ⟨⟨n, hn, hv⟩, bytes, hbytes⟩ := sound _ _ d found
  refine ⟨⟨n, hn, version.trans hv⟩, fun d' found' _ => ?_⟩
  rw [document?, found] at found'
  obtain rfl := Option.some.inj found'
  -- What the client has decoded is the live document, although it went through a reply.
  have sameValue := canonical.reread bytes d.source 126 source hbytes again
  rw [Codec.revise, octets, sameValue] at revised
  cases decoded : c.updater.codec.decode d.source.write with
  | error e => simp [decoded] at revised
  | ok a =>
    rw [decoded] at revised
    exact ⟨a, rfl, revised⟩

/-- A step of a client that is about to read leaves all documents as they are. -/
theorem step_reading (sound : conn.client.store.Sound) (left : Nat) (a : Attempts) :
    let r := (c.updater.rounds c.id c.change left a).step (Loopback.transport c.http) conn
    conn.client.store.Evolves [] r.2.client.store ∧
      (r.2.client.store.writes c.updater.index ≤ UInt64.size → c.Phase r.2.client.store r.1) ∧
      ∀ u, r.1 ≠ .done (.ok u) := by
  cases left with
  | zero => exact ⟨.refl _, fun _ => .ended _, by simp [Updater.rounds, Program.step]⟩
  | succ left =>
    have quiet := Loopback.evolves_get bare conn c.updater.index c.id
    have ready := ready_of_read bare canonical conn sound
    -- Every branch but the last one is the end; there a write is next, and after a conflict
    -- another round or the end.
    simp only [Updater.rounds, Program.step]
    refine ⟨quiet, ?_⟩
    cases reply : (Loopback.transport c.http (.get c.updater.index c.id) conn).1 with
    | error e => exact ⟨fun _ => .ended _, by simp⟩
    | ok found =>
      cases found with
      | none => exact ⟨fun _ => .ended _, by simp⟩
      | some read =>
        simp only
        cases revised : c.updater.codec.revise c.change read.source with
        | error e => exact ⟨fun _ => .ended _, by simp⟩
        | ok payload =>
          refine ⟨fun few => .writing payload read.version _
            ((ready read payload reply revised).of_evolves quiet few) ?_ ?_, by simp⟩
          · intro w
            exact ⟨_, rfl⟩
          · intro e
            cases e with
            | conflict id reason =>
              simp only
              split
              · exact .inr ⟨_, _, rfl⟩
              · exact .inl ⟨_, rfl⟩
            | _ => exact .inl ⟨_, rfl⟩

/-- A step of a client that is about to write leaves all documents as they are, or the document
is replaced and the update acknowledged. -/
theorem step_writing {payload : Bytes} {v : Version}
    {next : Except ClientError Acknowledgement → Program (Except ClientError Updated)}
    (ready : c.Ready conn.client.store payload v)
    (acknowledged : ∀ w, ∃ made, next (.ok w) = .done (.ok ⟨w, made⟩))
    (refused : ∀ e, (∃ e', next (.error e) = .done (.error e')) ∨
      ∃ left a, next (.error e) = c.updater.rounds c.id c.change left a) :
    let r := (Program.call (.write c.updater.index (c.updater.request c.id payload v)) next).step
      (Loopback.transport c.http) conn
    (conn.client.store.Evolves [] r.2.client.store ∧ c.Phase r.2.client.store r.1 ∧
        ∀ u, r.1 ≠ .done (.ok u)) ∨
      ∃ u, r.1 = .done (.ok u) ∧ c.Replaces u conn.client.store r.2.client.store := by
  have put := Loopback.transport_guardedPut bare conn c.updater.index c.id v payload
    c.updater.refresh
  have request : c.updater.request c.id payload v =
      ⟨some c.id, payload, some v, .index, c.updater.refresh⟩ := rfl
  rw [request]
  simp only [Program.step] at put ⊢
  generalize Loopback.transport c.http (.write c.updater.index
    ⟨some c.id, payload, some v, .index, c.updater.refresh⟩) conn = r at put ⊢
  obtain ⟨⟨e, he⟩, quiet⟩ | ⟨d, result, named, known, hd, current, done, evolves, new⟩ := put
  · left
    refine ⟨quiet, ?_⟩
    rw [he]
    obtain ⟨e', ended⟩ | ⟨left, a, again⟩ := refused e
    · rw [ended]
      exact ⟨.ended _, by simp⟩
    · rw [again]
      exact ⟨.reading left a, rounds_ne_ok left a⟩
  · right
    rw [done]
    obtain ⟨made, hmade⟩ := acknowledged
      ⟨c.id, conn.client.store.numbered (conn.client.store.writes c.updater.index), result⟩
    refine ⟨_, hmade, ?_⟩
    -- The guard held, so the document is the one that the change was made from.
    obtain ⟨old, hold, version⟩ := Option.map_eq_some_iff.1 current
    obtain ⟨a, decoded, encoded⟩ := (ready named known).2 old hold version
    refine ⟨old, _, a, hold, decoded, new, ?_, rfl, ?_⟩
    · exact canonical.encoded _ _ _ encoded hd
    · intro name id hne
      refine evolves.same name id ?_
      rw [List.filter_eq_nil_iff, List.forall_mem_singleton, Receipt.concerns, Bool.and_eq_true,
        beq_iff_eq, beq_iff_eq]
      rintro ⟨rfl, rfl⟩
      exact hne rfl

/-- A step of a client leaves all documents as they are, or it is the one in which the document is
replaced and the update acknowledged. -/
theorem step_cases {p : Program (Except ClientError Updated)} (h : c.Phase conn.client.store p)
    (sound : conn.client.store.Sound) :
    let r := p.step (Loopback.transport c.http) conn
    (r.2.client.store.writes c.updater.index ≤ UInt64.size → c.Phase r.2.client.store r.1) ∧
      ((conn.client.store.Evolves [] r.2.client.store ∧
          ∀ u, r.1 = .done (.ok u) ↔ p = .done (.ok u)) ∨
        ∃ u, r.1 = .done (.ok u) ∧ (∀ r, p ≠ .done r) ∧
          c.Replaces u conn.client.store r.2.client.store) := by
  cases h with
  | ended r => exact ⟨fun _ => .ended r, .inl ⟨.refl _, fun _ => Iff.rfl⟩⟩
  | reading left a =>
    obtain ⟨quiet, phase, notOk⟩ := step_reading bare canonical conn sound left a
    exact ⟨phase, .inl ⟨quiet, fun u => iff_of_false (notOk u) (rounds_ne_ok left a u)⟩⟩
  | writing payload v next ready acknowledged refused =>
    obtain ⟨quiet, phase, notOk⟩ | ⟨u, ended, replaces⟩ :=
      step_writing bare canonical conn ready acknowledged refused
    · exact ⟨fun _ => phase, .inl ⟨quiet, fun u => iff_of_false (notOk u) (by simp)⟩⟩
    · refine ⟨fun _ => ?_, .inr ⟨u, ended, by simp, replaces⟩⟩
      rw [ended]
      exact .ended _

end UpdateClient

end VersionedStore
