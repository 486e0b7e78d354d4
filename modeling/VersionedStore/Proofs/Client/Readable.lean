import Mathlib.Logic.Function.Iterate
import VersionedStore.Proofs.Client.Addressing
import VersionedStore.Proofs.Testing.Note

/-!
# Documents that a client can read

A client reads a document over the transport and decodes what it is shown. Nothing is shown where
the name of the index or the id is empty, and nothing can be decoded where the document nests too
deeply. A codec that is to read back what it wrote sees it as it comes out of the store: printed and
read, once with every answer and once more if it was sent in a bulk request on several lines.

## Main definitions

* `Loopback.shown?` — the document that a client reads
* `Codec.ofShown?`, `Store.shown?` — the same, told by the store
* `Codec.Recovers` — a codec that reads back what it wrote

## Main results

* `Loopback.shown?_eq` — what a client reads is what the store tells
* `Codec.Recovers.exists_payload` — what was encoded is read back, in whatever way it was written
* `Note.recovers_codec` — notes are read back
-/

namespace VersionedStore

open Json

/-! ## Replies that show nothing -/

/-- Of an object, only its own members make the fields of a record. -/
theorem Json.Record.lookup_of_absent {fields : List Field} {name : String}
    {ms found fs : List (String × Text)} (absent : ∀ m ∈ ms, m.1 ≠ name)
    (h : ofMembers? fields found (ms.map fun m => (Symbol.ofString m.1, m.2)) = some fs) :
    fs.lookup name = found.lookup name := by
  induction ms generalizing found with
  | nil => rw [← Option.some.inj h]
  | cons m ms ih =>
    obtain ⟨other, others⟩ := List.forall_mem_cons.1 absent
    rw [List.map_cons, ofMembers?, Symbol.meaning?_ofString] at h
    dsimp only at h
    split at h
    · split at h
      · cases h
      · rw [ih others h, List.lookup_append, List.lookup_cons, beq_eq_false_iff_ne.2 other.symm]
        exact Option.or_none
    · exact ih others h

/-- An object without an id is not taken for a document. -/
theorem Wire.GetReply.read_of_absent {ms : List (String × Text)} (absent : ∀ m ∈ ms, m.1 ≠ "_id")
    (level : Nat) : read level (.ofMembers ms) = none := by
  cases level with
  | zero => rfl
  | succ level =>
    rw [read, Text.ofMembers, Record.ofText?]
    cases h : Record.ofMembers? fields [] (ms.map fun m => (Symbol.ofString m.1, m.2)) with
    | none => rfl
    | some fs =>
      have missing : Record.required ⟨level, fs⟩ "_id" Reader.string = none := by
        rw [Record.required, Record.lookup_of_absent absent h]
        rfl
      simp only [Option.map_some, Option.bind_eq_bind, Option.bind_some, missing, Option.bind_none]
      cases Record.orDefault ⟨level, fs⟩ "_index" "" Reader.string <;> rfl

/-- A reply that shows no document: a refusal, or an object without an id. -/
inductive Reply.ShowsNothing : Reply → Prop
  | refusal (e : StoreError) : ShowsNothing (.ofError e)
  | object {ms : List (String × Text)} (wellFormed : (Text.ofMembers ms).WellFormed)
    (absent : ∀ m ∈ ms, m.1 ≠ "_id") : ShowsNothing (.ofText 200 (.ofMembers ms))

theorem Reply.ShowsNothing.unread {reply : Reply} (h : reply.ShowsNothing) (index id : String)
    (read : Stored) : Http.answer (.get index id) reply ≠ .ok (some read) := by
  intro answered
  cases h with
  | refusal e =>
    have arrives := (StoreCall.get index id).arrives_ofError e
    rw [answered] at arrives
    cases arrives with
    | nothing _ missing => cases missing
  | object wellFormed absent =>
    have present : (200 : UInt16) ≠ 404 := by decide
    rw [Http.answer, Reply.ofText, if_neg present, Http.decode, if_pos (by rfl),
      Wire.parse?_write _ wellFormed, Wire.GetReply.read_of_absent absent] at answered
    cases answered

namespace Server

variable (s : Server) (index : String) (params : Params) (body : Bytes)

/-- The reply that tells an answer shows nothing if all answers are objects without an id. -/
private theorem showsNothing_of_answer {r : Request} {x : Except StoreError Reply}
    (answered : (s.answer r).1 = x)
    (objects : ∀ reply, x = .ok reply → reply.ShowsNothing) : (s.handle r).1.ShowsNothing := by
  rw [handle]
  generalize s.answer r = result at answered ⊢
  obtain ⟨answer, s'⟩ := result
  obtain rfl := answered
  cases answer with
  | error e => exact .refusal e
  | ok reply => exact objects reply rfl

theorem showsNothing_search {reply : Reply} (h : (s.search index params body).1 = .ok reply) :
    reply.ShowsNothing := by
  have page (p : Wire.SearchReply) : (Reply.ofText 200 p.toText).ShowsNothing := by
    refine .object p.wellFormed_toText ?_
    rw [List.forall_mem_append]
    refine ⟨fun m hm => ?_, by simp⟩
    cases handle : p.handle with
    | none =>
      rw [handle] at hm
      cases hm
    | some word =>
      rw [handle, Record.given, List.mem_singleton] at hm
      rw [hm]
      simp
  unfold search at h
  split at h
  · cases h
  · split at h
    · cases h
    · split at h
      · rw [← Except.ok.inj h]
        exact page _
      · split at h
        · cases h
        · rw [← Except.ok.inj h]
          exact page _

theorem showsNothing_count {reply : Reply} (h : s.count index body = .ok reply) :
    reply.ShowsNothing := by
  have number (n : UInt64) : (Reply.ofText 200 (Wire.CountReply.toText ⟨n⟩)).ShowsNothing :=
    .object (Text.wellFormed_ofMembers (by simp [Text.wellFormed_ofNat])) (by simp)
  unfold count at h
  split at h
  all_goals
    obtain ⟨b, -, h⟩ := bind_eq_ok_iff.1 h
    obtain ⟨q, -, h⟩ := bind_eq_ok_iff.1 h
    obtain ⟨n, -, h⟩ := bind_eq_ok_iff.1 h
    rw [← Except.ok.inj h]
    exact number n

theorem showsNothing_refresh {reply : Reply}
    (h : (s.run params body (.refresh index)).1 = .ok reply) : reply.ShowsNothing := by
  obtain ⟨-, -, rfl⟩ := map_eq_ok_iff.1 h
  refine .object (Text.wellFormed_ofMembers ?_) (by simp)
  rw [List.forall_mem_singleton]
  exact Text.wellFormed_ofMembers (by simp [Text.wellFormed_ofNat])

/-- Without an index or an id, the request to read a document is another one or none. -/
theorem showsNothing_get {id : String} (nowhere : index = "" ∨ id = "") :
    (s.handle ⟨"GET", String.ofList (Target.pathOf [index, "_doc", id]), []⟩).1.ShowsNothing := by
  refine s.showsNothing_of_answer rfl fun reply answered => ?_
  rw [answer] at answered
  simp only [Target.parse_pathOf] at answered
  generalize hroute : Route.ofSegments? "GET" ([index, "_doc", id].filter (· ≠ "")) = route
    at answered
  -- With one name left, it is taken for that of an index or of what is to be done with one.
  have routes : route = none ∨ ∃ index, route = some (.search index) ∨
      route = some (.count index) ∨ route = some (.refresh index) := by
    subst hroute
    by_cases unnamed : index = ""
    · by_cases unknown : id = ""
      · simp [unnamed, unknown, Route.ofSegments?]
      · have pair : Route.ofSegments? "GET" ([index, "_doc", id].filter (· ≠ "")) =
            Route.ofPair? "GET" "_doc" id := by simp [unnamed, unknown, Route.ofSegments?]
        rw [pair]
        simp only [Route.ofPair?, String.reduceEq, and_false, false_and, true_or, and_true,
          if_false]
        split_ifs <;> simp
    · have unknown : id = "" := nowhere.resolve_left unnamed
      simp [unnamed, unknown, Route.ofSegments?, Route.ofPair?]
  obtain rfl | ⟨other, rfl | rfl | rfl⟩ := routes
  · cases answered
  · exact s.showsNothing_search other _ _ answered
  · exact s.showsNothing_count other [] answered
  · exact s.showsNothing_refresh other _ _ answered

end Server

/-! ## What a client reads -/

section Shown

variable {α : Type} (codec : Codec α)

/-- The document that a client reads off a stored value, if it is not too deep to be shown. -/
def Codec.ofShown? (v : Value) : Option α :=
  if v.depth ≤ 126 then (codec.decode v.reread.write).toOption else none

/-- The document of an id as a client reads it. -/
def Store.shown? (s : Store) (name id : String) : Option α :=
  if name = "" ∨ id = "" then none
  else (s.document? name id).bind fun d => codec.ofShown? d.source

/-- The document in the answer to its reading. -/
def Codec.ofAnswer? : Except ClientError (Option Stored) → Option α
  | .ok (some read) => (codec.decode read.source).toOption
  | _ => none

/-- The document that a client reads over the transport. -/
def Loopback.shown? (config : HttpConfig) (c : Http.Connection Server) (index id : String) :
    Option α :=
  codec.ofAnswer? (transport config (.get index id) c).1

variable {codec} {s s' : Store} {name id : String} {a : α}

theorem Store.shown?_eq_some_iff : s.shown? codec name id = some a ↔
    (name ≠ "" ∧ id ≠ "") ∧
      ∃ d, s.document? name id = some d ∧ codec.ofShown? d.source = some a := by
  rw [shown?, ← Option.bind_eq_some_iff]
  split
  · next nowhere =>
    refine iff_of_false nofun fun h => ?_
    exact nowhere.elim h.1.1 h.1.2
  · next somewhere =>
    rw [and_iff_right (not_or.1 somewhere)]

theorem Store.shown?_congr (h : s'.document? name id = s.document? name id) :
    s'.shown? codec name id = s.shown? codec name id := by
  rw [shown?, shown?, h]

theorem Codec.ofShown?_eq_some_iff {v : Value} : codec.ofShown? v = some a ↔
    v.depth ≤ 126 ∧ codec.decode v.reread.write = .ok a := by
  rw [ofShown?]
  split
  · next shallow =>
    rw [and_iff_right shallow]
    cases codec.decode v.reread.write <;> simp [Except.toOption]
  · next deep => exact iff_of_false (Option.some_ne_none a).symm fun h => deep h.1

theorem Codec.ofAnswer?_eq_none {answer : Except ClientError (Option Stored)}
    (h : ∀ read, answer ≠ .ok (some read)) : codec.ofAnswer? answer = none := by
  unfold ofAnswer?
  split
  · next read => exact absurd rfl (h read)
  · rfl

variable {config : HttpConfig} (bare : Loopback.Bare config.base) {c : Http.Connection Server}

include bare

/-- A client reads what the store tells. -/
theorem Loopback.shown?_eq (codec : Codec α) (sent : c.client.store.Sent) (index id : String) :
    shown? codec config c index id = c.client.store.shown? codec index id := by
  by_cases nowhere : index = "" ∨ id = ""
  · have unread := (c.client.showsNothing_get index nowhere).unread index id
    have answered := transport_of_draft bare (Http.draft_get index id) rfl c
    rw [Store.shown?, if_pos nowhere]
    refine Codec.ofAnswer?_eq_none fun read => ?_
    rw [answered]
    dsimp only [Option.getD_none]
    exact unread read
  · obtain ⟨named, known⟩ := not_or.1 nowhere
    rw [Store.shown?, if_neg nowhere, shown?]
    cases live : c.client.store.document? index id with
    | none =>
      refine Codec.ofAnswer?_eq_none fun read answered => ?_
      obtain ⟨d, -, found, -⟩ := transport_get bare c named known (by simp [live]) answered
      rw [live] at found
      cases found
    | some d =>
      rw [get_live bare sent named known live, Option.bind_some, Codec.ofShown?]
      by_cases shallow : d.source.depth ≤ 126
      · rw [if_pos shallow, if_pos shallow]
        rfl
      · rw [if_neg shallow, if_neg shallow]
        rfl

end Shown

/-! ## Codecs that read back what they wrote -/

namespace Json.Value

theorem depth_reread_le {v : Value} (h : v.Proper) : v.reread.depth ≤ v.depth :=
  depth_le_of_ofText? (ofText?_toText h (Nat.le_refl _))

end Json.Value

namespace Codec

variable {α : Type} {codec : Codec α}

/-- A codec that writes objects, and that reads back what it wrote from the value of it, in whatever
order and spacing this is written, and however often it was printed and read again. -/
structure Recovers (codec : Codec α) : Prop where
  encodes : ∀ a, ∃ payload v, codec.encode a = .ok payload ∧ Store.parseSource payload = .ok v ∧
    v.depth ≤ 120
  decodes : ∀ a payload v, codec.encode a = .ok payload → Store.parseSource payload = .ok v →
    ∀ n, codec.decode (Value.reread^[n] v).write = .ok a

/-- Where all numbers are steady, it is enough to read the value back once. -/
theorem recovers_of_steady (h : ∀ a, ∃ payload v, codec.encode a = .ok payload ∧
    Store.parseSource payload = .ok v ∧ v.depth ≤ 120 ∧ v.Steady ∧
      codec.decode v.write = .ok a) : codec.Recovers where
  encodes a := by
    obtain ⟨payload, v, encoded, parsed, shallow, -⟩ := h a
    exact ⟨payload, v, encoded, parsed, shallow⟩
  decodes a payload v encoded parsed n := by
    obtain ⟨payload', v', encoded', parsed', -, steady, decoded⟩ := h a
    obtain rfl := Except.ok.inj (encoded.symm.trans encoded')
    obtain rfl := Except.ok.inj (parsed.symm.trans parsed')
    rw [Function.iterate_fixed (Value.reread_eq steady), decoded]

/-- What is encoded is stored as it is or on one line, and is read back in both cases. -/
theorem Recovers.exists_payload (h : codec.Recovers) (a : α) :
    ∃ payload v w, codec.encode a = .ok payload ∧
      Store.parseSource payload = .ok v ∧ codec.ofShown? v = some a ∧
      Store.parseSource (Bulk.onOneLine payload) = .ok w ∧ codec.ofShown? w = some a := by
  obtain ⟨payload, v, encoded, parsed, shallow⟩ := h.encodes a
  obtain ⟨ms, object, proper⟩ := Store.object_of_parseSource parsed
  have decoded := h.decodes a payload v encoded parsed
  have shown : codec.ofShown? v = some a :=
    ofShown?_eq_some_iff.2 ⟨shallow.trans (by decide), decoded 1⟩
  refine ⟨payload, v, ?_⟩
  by_cases broken : octet '\n' ∈ payload
  · have line : Bulk.onOneLine payload = v.write := by
      rw [Bulk.onOneLine, if_pos broken, Store.parse?_of_parseSource parsed]
      rfl
    have again : Store.parseSource v.write = .ok v.reread := by
      rw [Store.parseSource, Value.parse?_write_of_proper proper (shallow.trans (by decide)),
        object]
      rfl
    refine ⟨v.reread, encoded, parsed, shown, by rw [line, again], ?_⟩
    have shallow' := (Value.depth_reread_le proper).trans shallow
    exact ofShown?_eq_some_iff.2 ⟨shallow'.trans (by decide), decoded 2⟩
  · have line : Bulk.onOneLine payload = payload := if_neg broken
    exact ⟨v, encoded, parsed, shown, by rw [line, parsed], shown⟩

end Codec

/-- Notes are read back. -/
theorem Note.recovers_codec : Note.codec.Recovers := by
  refine Codec.recovers_of_steady fun n => ?_
  have shallow : n.value.depth ≤ 120 := by simp [value, Value.depth, Value.membersDepth]
  exact ⟨_, n.value, rfl, n.parseSource_encode, shallow,
    ⟨Number.reread_unsigned n.count, trivial, trivial⟩, n.decode_value⟩

end VersionedStore
