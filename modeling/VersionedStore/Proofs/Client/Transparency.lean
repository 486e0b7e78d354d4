import VersionedStore.Proofs.Client.Calls
import VersionedStore.Proofs.Client.Direct
import VersionedStore.Proofs.Client.Snapshot

/-!
# The transport is transparent

A call over the transport does to the store what its operation does when it is applied directly, and
its answer is the result of the operation. This holds for all names of indices and documents but
empty ones, whatever they look like, as they are encoded on the way. Documents and queries are
printed and read on the way, which can change floating point numbers and nothing else.

## Main definitions

* `StoreCall.Fits` — the calls that the protocol can carry
* `StoreCall.Arrives` — how the result of an operation arrives as an answer
* `Loopback.Transparent` — a call does what its operation does

## Main results

* `Loopback.transport_transparent` — a call over the transport is its operation
-/

namespace VersionedStore

open Json

/-! ## What can be carried -/

namespace Action

/-- An action of which each part can be sent: a put or a delete names its document, and a create or
a put has one that is JSON. -/
structure Sendable (a : Action) : Prop where
  named : a.kind ≠ .create → a.id.isSome
  source : a.kind.hasSource = true → ∃ bytes v, a.source = some bytes ∧
    Value.parse? bytes = some v ∧ v.depth ≤ 120

/-- An action as it is sent: the document of a delete is left behind. -/
def sent (a : Action) : Action := if a.kind.hasSource then a else { a with source := none }

/-- An action is complete as it is sent, however deep its document nests. -/
theorem complete_sent {a : Action} (named : a.kind ≠ .create → a.id.isSome)
    (document : a.kind.hasSource = true → ∃ bytes v, a.source = some bytes ∧
      Value.parse? bytes = some v) : a.sent.Complete := by
  unfold sent
  split
  · next hk =>
    refine ⟨fun _ => ?_, fun no => absurd (hk.symm.trans no) (by decide), named⟩
    obtain ⟨bytes, v, source, parsed⟩ := document hk
    refine ⟨bytes, source, ?_, fun _ => by rw [parsed]; rfl⟩
    unfold Value.parse? at parsed
    split at parsed
    · simp at parsed
    · next text => rw [text]; rfl
  · next hk => exact ⟨fun source => absurd source hk, fun _ => rfl, named⟩

theorem Sendable.complete {a : Action} (h : a.Sendable) : a.sent.Complete :=
  complete_sent h.named fun hk => by
    obtain ⟨bytes, v, source, parsed, -⟩ := h.source hk
    exact ⟨bytes, v, source, parsed⟩

/-- What arrives of an action does what the action does. -/
theorem alike_carried (a : Action) : (Passage.printed.action a).Alike a.sent.carried := by
  unfold sent
  split
  · exact ⟨rfl, rfl, rfl, rfl, fun _ => rfl⟩
  · next hk => exact ⟨rfl, rfl, rfl, rfl, fun source => absurd source hk⟩

end Action

/-- Only a document that is sent makes a difference to the body. -/
theorem Bulk.encode_sent (actions : List Action) :
    encode (actions.map Action.sent) = encode actions := by
  have same (a : Action) : encodeAction a.sent = encodeAction a := by
    unfold Action.sent
    split
    · rfl
    · next hk =>
      rw [encodeAction, encodeAction, if_neg (by simpa using hk), if_neg hk]
      rfl
  induction actions with
  | nil => rfl
  | cons a as ih => simp only [List.map_cons, encode, same, ih]

namespace StoreCall

/-- The calls that the protocol can carry: names are not empty, JSON does not nest too deeply, and a
page is not too large. -/
def Fits (s : Store) : StoreCall → Prop
  | bulk index actions _ => index ≠ "" ∧ ∀ a ∈ actions, a.Sendable
  | get index id => index ≠ "" ∧ id ≠ "" ∧
      ∀ d, s.document? index id = some d → d.source.depth ≤ 120
  | write index w => index ≠ "" ∧ w.id ≠ some ""
  | delete index id _ _ => index ≠ "" ∧ id ≠ ""
  | search index b => index ≠ "" ∧ (∀ v ∈ b.query, v.Proper ∧ v.depth ≤ 120) ∧
      b.size ≤ s.config.maxPage ∧
      ∀ id d, (s.indexOrEmpty index).published.find? id = some d → d.source.depth ≤ 120
  | count index query => index ≠ "" ∧ ∀ v ∈ query, v.Proper ∧ v.depth ≤ 120
  | refresh index => index ≠ ""

/-! ## How results arrive -/

/-- The answer of a call where something is missing, if that is no failure. -/
def whenMissing? : (c : StoreCall) → Option c.call.Answer
  | get .. => some none
  | _ => none

/-- How the result of an operation arrives: as the answer, or as a failure of the kind that its
status tells. -/
inductive Arrives (c : StoreCall) : Except StoreError c.call.Answer → c.call.Reply → Prop
  | answer (a : c.call.Answer) : Arrives c (.ok a) (.ok a)
  | nothing {e : StoreError} {a : c.call.Answer} :
      e.status = 404 → c.whenMissing? = some a → Arrives c (.error e) (.ok a)
  | failure {e : StoreError} {f : ClientError} :
      (e.status = 404 → c.whenMissing? = none) → f.failureKind = .ofStatus e.status →
      Arrives c (.error e) (.error f)

theorem Arrives.eq_answer {c : StoreCall} {a : c.call.Answer} {reply : c.call.Reply}
    (h : c.Arrives (.ok a) reply) : reply = .ok a := by
  cases h with
  | answer => rfl

end StoreCall

theorem ClientError.failureKind_ofReply (status : UInt16) (body : Bytes) (id : Option String) :
    (ofReply status body id).failureKind = .ofStatus status := by
  unfold ofReply
  cases kind : FailureKind.ofStatus status <;> simp only [failureKind, kind]

theorem Http.decode_ofError {α : Type} (read : Reader α) (id : Option String) (e : StoreError) :
    decode read id (.ofError e) = .error (.ofReply e.status e.toFailure.toText.write id) := by
  rw [decode, Reply.isSuccess_ofError, if_neg Bool.false_ne_true]
  rfl

namespace StoreCall

variable {α : Type}

/-- A refusal arrives as a failure of its kind; to read what is missing gives nothing. -/
theorem arrives_ofError (c : StoreCall) (e : StoreError) :
    c.Arrives (.error e) (Http.answer c.call (.ofError e)) := by
  have kind (id : Option String) :=
    ClientError.failureKind_ofReply e.status e.toFailure.toText.write id
  cases c with
  | get index id =>
    by_cases missing : e.status = 404
    · have answered : Http.answer (.get index id) (.ofError e) = .ok none := if_pos missing
      rw [answered]
      exact .nothing missing rfl
    · have answered : Http.answer (.get index id) (.ofError e) =
          .error (.ofReply e.status e.toFailure.toText.write (some id)) := by
        rw [Http.answer, if_neg (show ¬(Reply.ofError e).status = 404 from missing),
          Http.decode_ofError]
      rw [answered]
      exact .failure (fun h => absurd h missing) (kind _)
  | bulk index actions policy =>
    simp only [Http.answer, Http.decode_ofError]
    exact .failure (fun _ => rfl) (kind _)
  | write index w =>
    simp only [Http.answer, Http.decode_ofError]
    exact .failure (fun _ => rfl) (kind _)
  | delete index id required policy =>
    simp only [Http.answer, Http.decode_ofError]
    exact .failure (fun _ => rfl) (kind _)
  | search index b =>
    simp only [Http.answer, Http.page, Http.decode_ofError]
    exact .failure (fun _ => rfl) (kind _)
  | count index query =>
    simp only [Http.answer, Http.decode_ofError]
    exact .failure (fun _ => rfl) (kind _)
  | refresh index =>
    simp only [Http.answer, Http.done, Reply.isSuccess_ofError, Bool.false_eq_true, ↓reduceIte]
    exact .failure (fun _ => rfl) (kind _)

/-- The result of an operation arrives if its answers do. -/
theorem arrives_told (c : StoreCall) {r : Except StoreError α} {reply : α → Reply}
    {f : α → c.call.Answer} (h : ∀ a, r = .ok a → Http.answer c.call (reply a) = .ok (f a)) :
    c.Arrives (r.map f) (Http.answer c.call (Server.told r reply)) := by
  cases r with
  | error e => exact c.arrives_ofError e
  | ok a =>
    rw [Server.told, h a rfl]
    exact .answer (f a)

end StoreCall

/-! ## Calls -/

namespace Loopback

/-- A call over the transport does what its operation does, and is answered by its result. -/
def Transparent (config : HttpConfig) (c : StoreCall) (s : Http.Connection Server) : Prop :=
  let r := transport config c.call s
  let direct := c.apply .printed s.client.store
  c.Arrives direct.1 r.1 ∧ r.2 = ⟨{ s.client with store := direct.2 }, none⟩

variable {config : HttpConfig} (bare : Bare config.base) {s : Http.Connection Server}

include bare

/-- A call that is answered by its operation is transparent, if the answers of the operation arrive
as such. -/
theorem transparent_of_applied {c : StoreCall} {method : String} {cs : List Char}
    {body : Option Bytes} (draft : Http.draft c.call = .ok ⟨method, String.ofList cs, body⟩)
    (slash : cs.head? = some '/') {α : Type} {x : Except StoreError α × Store} {reply : α → Reply}
    {f : α → c.call.Answer}
    (answered : s.client.answer ⟨method, String.ofList cs, body.getD []⟩ =
      s.client.onStore x reply)
    (applied : c.apply .printed s.client.store = (x.1.map f, x.2))
    (arrives : ∀ a, x.1 = .ok a → Http.answer c.call (reply a) = .ok (f a)) :
    Transparent config c s := by
  simp only [Transparent, transport_of_answer bare draft slash answered, applied]
  exact ⟨c.arrives_told arrives, trivial⟩

theorem transparent_bulk_of_complete {index : String} (named : index ≠ "") {actions : List Action}
    (complete : ∀ a ∈ actions, a.sent.Complete) (policy : RefreshPolicy) :
    Transparent config (.bulk index actions policy) s := by
  have complete : ∀ a ∈ actions.map Action.sent, a.Complete := by
    intro a ha
    obtain ⟨b, hb, rfl⟩ := List.mem_map.1 ha
    exact complete b hb
  obtain ⟨body, encoded, decoded⟩ := Bulk.decodeLines_encode complete
  rw [Bulk.encode_sent] at encoded
  have alike : List.Forall₂ Action.Alike (actions.map Passage.printed.action)
      ((actions.map Action.sent).map Action.carried) := by
    rw [List.map_map, List.forall₂_map_left_iff, List.forall₂_map_right_iff, List.forall₂_same]
    exact fun a _ => a.alike_carried
  refine transparent_of_applied bare (Http.draft_bulk index encoded policy) rfl
    (s.client.answer_bulk named (decoded 1) policy) ?_ ?_
    (f := Wire.BulkReply.items)
  · rw [s.client.store.bulk_of_alike alike]
    rfl
  · intro reply _
    simp only [Http.answer, Http.decode, Reply.ofText, Wire.BulkReply.parse?_toText]
    rfl

theorem transparent_bulk {index : String} (named : index ≠ "") {actions : List Action}
    (sendable : ∀ a ∈ actions, a.Sendable) (policy : RefreshPolicy) :
    Transparent config (.bulk index actions policy) s :=
  transparent_bulk_of_complete bare named (fun a ha => (sendable a ha).complete) policy

/-- The reading of a document that was sent and does not nest too deeply is transparent. -/
theorem transparent_get_of_shallow {index id : String} (named : index ≠ "") (known : id ≠ "")
    (sent : ∀ d, s.client.store.document? index id = some d →
      (∃ bytes, Store.parseSource bytes = .ok d.source) ∧ d.source.depth ≤ 126) :
    Transparent config (.get index id) s := by
  refine transparent_of_applied bare (Http.draft_get index id) rfl
    (s.client.answer_get named known) rfl ?_
  intro reply read
  obtain ⟨-, missing | absent⟩ | ⟨d, live, found⟩ := s.client.store.get_cases index id
  · rw [missing] at read
    cases read
  · rw [absent] at read
    rw [← Except.ok.inj read]
    rfl
  · rw [found] at read
    obtain ⟨⟨bytes, parsed⟩, shallow⟩ := sent d live
    obtain ⟨ms, object, proper⟩ := Store.object_of_parseSource parsed
    have shown := Http.answer_get_found index id d.version ms
    rw [← object, Value.ofText?_toText proper shallow] at shown
    rw [← Except.ok.inj read, Passage.stored?_found]
    exact shown

theorem transparent_get (sent : s.client.store.Sent) {index id : String}
    (fits : (StoreCall.get index id).Fits s.client.store) :
    Transparent config (.get index id) s :=
  transparent_get_of_shallow bare fits.1 fits.2.1 fun d live =>
    ⟨sent index id d (.inl live), (fits.2.2 d live).trans (by decide)⟩

theorem transparent_write {index : String} (named : index ≠ "") {w : WriteRequest}
    (known : w.id ≠ some "") : Transparent config (.write index w) s := by
  have written := Http.answer_write_written index w
  obtain ⟨id, payload, required, mode, policy⟩ := w
  cases id with
  | some id =>
    exact transparent_of_applied bare (Http.draft_put index id payload required mode policy) rfl
      (s.client.answer_put named (fun empty => known (congrArg some empty)) mode required policy
        payload) rfl fun w _ => written w
  | none =>
    exact transparent_of_applied bare (Http.draft_create index payload required mode policy) rfl
      (s.client.answer_create named required policy payload) rfl fun w _ => written w

theorem transparent_delete {index id : String} (named : index ≠ "") (known : id ≠ "")
    (required : Option Version) (policy : RefreshPolicy) :
    Transparent config (.delete index id required policy) s := by
  refine transparent_of_applied bare (Http.draft_delete index id required policy) rfl
    (s.client.answer_delete named known required policy) rfl fun w _ => ?_
  simp only [Http.answer, Http.decode, Reply.ofText, Wire.WriteReply.parse?_toText]
  rfl

theorem transparent_search (sent : s.client.store.Sent) {index : String} {b : Wire.SearchBody}
    (fits : (StoreCall.search index b).Fits s.client.store) :
    Transparent config (.search index b) s := by
  obtain ⟨named, proper, small, documents⟩ := fits
  have read := Wire.SearchBody.parse?_toText b fun v hv =>
    ⟨(proper v hv).1, (proper v hv).2.trans (by decide)⟩
  refine transparent_of_applied bare (Http.draft_plainSearch index b) rfl
    (s.client.answer_search named read small) rfl ?_
  intro hits found
  obtain ⟨q, -, found⟩ := bind_eq_ok_iff.1 found
  obtain missing | selected := s.client.store.search_cases index q b.versions
  · rw [missing] at found
    cases found
  · rw [selected] at found
    obtain rfl := Except.ok.inj found
    have carries : ∀ h ∈ (((s.client.store.indexOrEmpty index).select q).map
        (Store.hit index b.versions)).take b.size.toNat, h.Carries 123 := by
      intro h hh
      obtain ⟨e, he, rfl⟩ := List.mem_map.1 (List.mem_of_mem_take hh)
      have published :=
        (((s.client.store.indexOrEmpty index).finds_select q).mem_iff e.1 e.2).1 he
      obtain ⟨proper, object⟩ := sent.proper published.1
      exact Document.Travels.carries b.versions
        ⟨proper, (documents e.1 e.2 published.1).trans (by decide), object⟩
    refine Http.page_of_carries _ carries fun h hh => ?_
    obtain ⟨e, -, rfl⟩ := List.mem_map.1 (List.mem_of_mem_take hh)
    exact Wire.RawHit.whole_hit index b.versions e

theorem transparent_count {index : String} (named : index ≠ "") {query : Option Value}
    (proper : ∀ v ∈ query, v.Proper ∧ v.depth ≤ 120) :
    Transparent config (.count index query) s := by
  have read := Wire.CountBody.parse?_toText fun v hv =>
    ⟨(proper v hv).1, (proper v hv).2.trans (by decide)⟩
  refine transparent_of_applied bare (Http.draft_count index query) rfl
    (s.client.answer_count named read) (f := id) ?_ ?_
  · rw [Except.map_id]
    rfl
  · intro n _
    simp only [Http.answer, Http.decode, Reply.ofText, Wire.CountReply.parse?_toText]
    rfl

theorem transparent_refresh {index : String} (named : index ≠ "") :
    Transparent config (.refresh index) s := by
  refine transparent_of_applied bare (Http.draft_refresh index) rfl
    (s.client.answer_refresh named) (f := id) ?_ fun _ _ => rfl
  rw [Except.map_id]
  rfl

/-- A call over the transport does to the store what its operation does, and its answer is the
result of the operation; a refusal of the store arrives as a failure of its kind, except that a
reading finds nothing where something is missing. Documents and queries are printed and read on the
way, which makes no difference where all numbers are steady. -/
theorem transport_transparent (sent : s.client.store.Sent) (c : StoreCall)
    (fits : c.Fits s.client.store) :
    let r := transport config c.call s
    let direct := c.apply .printed s.client.store
    c.Arrives direct.1 r.1 ∧ r.2 = ⟨{ s.client with store := direct.2 }, none⟩ ∧
      (c.Steady s.client.store → direct = c.apply .verbatim s.client.store) := by
  intro r direct
  suffices transparent : Transparent config c s from
    ⟨transparent.1, transparent.2, c.apply_printed⟩
  cases c with
  | bulk index actions policy => exact transparent_bulk bare fits.1 fits.2 policy
  | get index id => exact transparent_get bare sent fits
  | write index w => exact transparent_write bare fits.1 fits.2
  | delete index id required policy =>
    exact transparent_delete bare fits.1 fits.2 required policy
  | search index b => exact transparent_search bare sent fits
  | count index query => exact transparent_count bare fits.1 fits.2
  | refresh index => exact transparent_refresh bare fits

omit bare

/-- A server whose one document has a name that looks like a path with parameters. -/
def disguised : Server :=
  (Server.empty {}).after
    [⟨"PUT", "/_search/_doc/..%2F_bulk%3Fa%3D%25", Utf8.encode "\x7b\"n\":1\x7d"⟩]

/-- The document is found under its name, in an index whose name is a word of the protocol. -/
theorem transport_transparent_disguised :
    let c := StoreCall.get "_search" "../_bulk?a=%"
    (Bare Repository.nearby.base ∧ disguised.store.Sent ∧ c.Fits disguised.store) ∧
      (transport Repository.nearby c.call ⟨disguised, none⟩).1 =
        .ok (some ⟨"../_bulk?a=%", ⟨1, 0⟩, Utf8.encode "\x7b\"n\":1\x7d"⟩) := by
  intro c
  have bare : Bare Repository.nearby.base := ⟨"a".toList, by decide +kernel, by decide⟩
  have sent : disguised.store.Sent :=
    ((Server.empty {}).reaches_after _).sent (Store.sent_empty {})
  have shallow : (disguised.store.document? "_search" "../_bulk?a=%").all
      fun d => d.source.depth ≤ 120 := by decide +kernel
  have fits : c.Fits disguised.store := by
    refine ⟨by decide, by decide, fun d found => ?_⟩
    rw [found] at shallow
    exact of_decide_eq_true shallow
  have direct : (c.apply .printed disguised.store).1 =
      .ok (some ⟨"../_bulk?a=%", ⟨1, 0⟩, Utf8.encode "\x7b\"n\":1\x7d"⟩) := by decide +kernel
  obtain ⟨arrives, -⟩ := transport_transparent bare (s := ⟨disguised, none⟩) sent c fits
  rw [direct] at arrives
  exact ⟨⟨bare, sent, fits⟩, arrives.eq_answer⟩

/-- Without a passage the statement fails: a document that has a large floating point number is not
shown as it is stored. -/
theorem transport_not_verbatim :
    let c := StoreCall.get "b" "c"
    c.Fits Repository.measured.store ∧
      ¬ c.Arrives (c.apply .verbatim Repository.measured.store).1
        (transport Repository.nearby c.call ⟨Repository.measured, none⟩).1 := by
  intro c
  have shallow : (Repository.measured.store.document? "b" "c").all
      fun d => d.source.depth ≤ 120 := by decide +kernel
  have direct : (c.apply .verbatim Repository.measured.store).1 =
      .ok (some ⟨"c", ⟨1, 0⟩, Utf8.encode "\x7b\"x\":7.263450810061302e+47\x7d"⟩) := by
    decide +kernel
  have other : (transport Repository.nearby c.call ⟨Repository.measured, none⟩).1 ≠
      .ok (some ⟨"c", ⟨1, 0⟩, Utf8.encode "\x7b\"x\":7.263450810061302e+47\x7d"⟩) := by
    decide +kernel
  refine ⟨⟨by decide, by decide, fun d found => ?_⟩, fun arrives => ?_⟩
  · rw [found] at shallow
    exact of_decide_eq_true shallow
  · rw [direct] at arrives
    exact other arrives.eq_answer

end Loopback

end VersionedStore
