import VersionedStore.Proofs.Bulk.RoundTrip
import VersionedStore.Proofs.Client.Operations
import VersionedStore.Proofs.Server.Evolution
import VersionedStore.Proofs.Store.Guard
import VersionedStore.Proofs.Wire.Replies

/-!
# What calls do at the server

## Main results

* `Loopback.transport_bulk` — a bulk request of complete actions is carried out and answered
* `Loopback.transport_get` — what is read of a document
* `Loopback.transport_guardedPut` — what a guarded write has done, by its answer
-/

namespace VersionedStore

open Json

/-- A refusal is not taken for a success. -/
theorem Reply.isSuccess_ofError (e : StoreError) : (Reply.ofError e).isSuccess = false := by
  cases e <;> rfl

/-- A document that was found is shown as its printed form is read, if it is read. -/
theorem Http.answer_get_found (index id : String) (v : Version)
    (members : List (String × Value)) :
    answer (.get index id) (.ofText 200 (Wire.GetReply.toText
        ⟨index, id, true, some v.sequence, some v.epoch, some (.object members)⟩)) =
      match Value.ofText? 126 (Value.object members).toText with
      | none => .error (.answer .unreadable)
      | some source => .ok (some ⟨id, v, source.write⟩) := by
  have present : (200 : UInt16) ≠ 404 := by decide
  rw [answer, Reply.ofText, if_neg present, decode, if_pos (by rfl), Wire.GetReply.parse?_found]
  cases Value.ofText? 126 (Value.object members).toText <;> rfl

/-! ## Bulk requests -/

theorem Server.handle_bulk {index : String} (named : index ≠ "") {actions : List Action}
    {body : Bytes} (decoded : Bulk.decode body = .ok actions) (refresh : RefreshPolicy)
    (s : Server) (few : actions.length ≤ s.store.config.maxActions) :
    s.handle ⟨"POST", String.ofList (Target.pathOf [index, "_bulk"] ++
        '?' :: Target.queryOf [("refresh", refresh.param)]), body⟩ =
      (.ofText 200 (Wire.BulkReply.ofItems 0 (s.store.applyAll (some index) actions).1).toText,
        { s with store := (s.store.bulk (some index) actions refresh).2 }) := by
  have carriedOut : s.store.bulk (some index) actions refresh =
      (.ok (.ofItems 0 (s.store.applyAll (some index) actions).1),
        (s.store.bulk (some index) actions refresh).2) := by
    rw [Store.bulk, if_neg (by omega)]
  rw [handle_of_answer (s.answer_bulk named decoded refresh), carriedOut]
  rfl

namespace Loopback

/-- Whatever is called, the store evolves by one operation at most. -/
theorem evolves_transport (config : HttpConfig) (c : Call) (s : Http.Connection Server) :
    ∃ log, s.client.store.Evolves log (transport config c s).2.client.store := by
  unfold transport Http.transport
  cases Http.draft c with
  | error e => exact ⟨[], .refl _⟩
  | ok d =>
    simp only [serverClient, client]
    exact s.client.evolves_handle _

variable {config : HttpConfig} (bare : Bare config.base) (s : Http.Connection Server)

include bare

/-- A bulk request of complete actions is carried out, and answered with an item for each. -/
theorem transport_bulk {index : String} (named : index ≠ "") {actions : List Action}
    (complete : ∀ a ∈ actions, a.Complete) (refresh : RefreshPolicy)
    (few : actions.length ≤ s.client.store.config.maxActions) :
    transport config (.bulk index actions refresh) s =
      (.ok (s.client.store.applyAll (some index) (actions.map Action.carried)).1,
        ⟨{ s.client with
          store := (s.client.store.bulk (some index) (actions.map Action.carried) refresh).2 },
          none⟩) := by
  obtain ⟨body, hbody, decoded⟩ := Bulk.decodeLines_encode complete
  rw [transport_of_draft bare (Http.draft_bulk index hbody refresh) rfl, Option.getD_some,
    Server.handle_bulk named (decoded 1) refresh s.client (by simpa using few)]
  have readBack : Http.decode Wire.BulkReply.read none (.ofText 200 (Wire.BulkReply.toText
      (.ofItems 0 (s.client.store.applyAll (some index) (actions.map Action.carried)).1))) =
      .ok (.ofItems 0 (s.client.store.applyAll (some index) (actions.map Action.carried)).1) := by
    rw [Http.decode, if_pos (by rfl), Reply.ofText, Wire.BulkReply.parse?_toText]
  simp only [Http.answer, readBack]
  rfl

/-! ## Reading a document -/

/-- A reading leaves all documents as they are. -/
theorem evolves_get (index id : String) :
    s.client.store.Evolves [] (transport config (.get index id) s).2.client.store := by
  rw [transport_of_draft bare (Http.draft_get index id) rfl]
  simp only [Option.getD_none]
  exact s.client.evolves_handle_get [] _

/-- A document that is read is the live one, as the value of its written form. -/
theorem transport_get {index id : String} (named : index ≠ "") (known : id ≠ "")
    (objects : ∀ d, s.client.store.document? index id = some d → ∃ ms, d.source = .object ms)
    {read : Stored} (h : (transport config (.get index id) s).1 = .ok (some read)) :
    ∃ d source, s.client.store.document? index id = some d ∧ read.version = d.version ∧
      Value.ofText? 126 d.source.toText = some source ∧ read.source = source.write := by
  rw [transport_of_answer bare (Http.draft_get index id) rfl (s.client.answer_get named known)] at h
  obtain ⟨-, missing | absent⟩ | ⟨d, live, found⟩ := s.client.store.get_cases index id
  · rw [missing] at h
    cases h
  · rw [absent] at h
    cases h
  · obtain ⟨ms, object⟩ := objects d live
    have shown := Http.answer_get_found index id d.version ms
    rw [← object] at shown
    simp only [found, Server.told, ↓reduceIte, shown] at h
    split at h
    · cases h
    · next source reread =>
      obtain rfl := Option.some.inj (Except.ok.inj h)
      exact ⟨d, source, live, rfl, reread, rfl⟩

end Loopback

/-! ## Writing a document -/

namespace Http

variable (index : String) (request : WriteRequest)

theorem answer_write_ofError (e : StoreError) : answer (.write index request) (.ofError e) =
    .error (.ofReply e.status e.toFailure.toText.write request.id) := by
  rw [answer, decode, Reply.isSuccess_ofError, if_neg Bool.false_ne_true]
  rfl

theorem answer_write_written (w : Written) :
    answer (.write index request) (.ofText w.result.status (Server.writtenReply index w).toText) =
      .ok ⟨w.id, w.version, w.result.word⟩ := by
  have success :
      (Reply.ofText w.result.status (Server.writtenReply index w).toText).isSuccess = true := by
    obtain ⟨id, version, result⟩ := w
    cases result <;> rfl
  rw [answer, decode, success, if_pos rfl, Reply.ofText, Wire.WriteReply.parse?_toText]
  rfl

end Http

namespace Server

variable (s : Server) (index id : String) (v : Version) (body : Bytes) (refresh : RefreshPolicy)

/-- The request of a guarded write. -/
def guardedPut : Request :=
  ⟨"PUT", String.ofList (Target.pathOf [index, "_doc", id] ++
    '?' :: Target.queryOf (Http.writeParams (some .index) (some v) refresh)), body⟩

/-- Without an index or an id there is nothing to write to. -/
theorem handle_guardedPut_nowhere (h : ¬(index ≠ "" ∧ id ≠ "")) :
    ∃ e, s.handle (guardedPut index id v body refresh) = (.ofError e, s) := by
  -- Empty segments do not count, and none of the shorter paths takes a put.
  have noRoute : Route.ofSegments? "PUT" ([index, "_doc", id].filter (· ≠ "")) = none := by
    by_cases hindex : index = ""
    · by_cases hid : id = ""
      · simp [hindex, hid, Route.ofSegments?]
      · simp [hindex, hid, Route.ofSegments?, Route.ofPair?]
    · have hid : id = "" := by
        by_contra hid
        exact h ⟨hindex, hid⟩
      simp [hindex, hid, Route.ofSegments?, Route.ofPair?]
  rw [guardedPut, handle, answer]
  simp only [Target.parse_pathOf_queryOf _ (Http.writeParams_ne_nil _ _ _), noRoute]
  exact ⟨_, rfl⟩

theorem handle_guardedPut (named : index ≠ "") (known : id ≠ "") :
    s.handle (guardedPut index id v body refresh) =
      (told (s.store.write index (some id) .index (some v) body refresh).1 fun w =>
          .ofText w.result.status (writtenReply index w).toText,
        { s with store := (s.store.write index (some id) .index (some v) body refresh).2 }) :=
  handle_of_answer (s.answer_put named known .index (some v) refresh body)

end Server

namespace Loopback

variable {config : HttpConfig} (bare : Bare config.base) (s : Http.Connection Server)

include bare

/-- A guarded write that is answered has put the document in place of the version that it
expects; one that fails has left all documents as they are. -/
theorem transport_guardedPut (index id : String) (v : Version) (payload : Bytes)
    (refresh : RefreshPolicy) :
    let r := transport config (.write index ⟨some id, payload, some v, .index, refresh⟩) s
    ((∃ e, r.1 = .error e) ∧ s.client.store.Evolves [] r.2.client.store) ∨
      ∃ d result, index ≠ "" ∧ id ≠ "" ∧ Store.parseSource payload = .ok d ∧
        (s.client.store.document? index id).map Document.version = some v ∧
        r.1 = .ok ⟨id, s.client.store.numbered (s.client.store.writes index), result⟩ ∧
        s.client.store.Evolves
          [⟨index, id, s.client.store.numbered (s.client.store.writes index), true⟩]
          r.2.client.store ∧
        r.2.client.store.document? index id =
          some ⟨s.client.store.numbered (s.client.store.writes index), d⟩ := by
  intro r
  have answered : r = (Http.answer (.write index ⟨some id, payload, some v, .index, refresh⟩)
      (s.client.handle (Server.guardedPut index id v payload refresh)).1,
      ⟨(s.client.handle (Server.guardedPut index id v payload refresh)).2, none⟩) :=
    transport_of_draft bare (Http.draft_put index id payload (some v) .index refresh) rfl s
  by_cases h : index ≠ "" ∧ id ≠ ""
  · rw [Server.handle_guardedPut s.client index id v payload refresh h.1 h.2] at answered
    have evolves :=
      (s.client.store.reaches_write index (some id) .index (some v) payload refresh).evolves
    obtain ⟨e, he⟩ | ⟨d, result, hd, kept, current, done, put⟩ :=
      s.client.store.write_guarded_cases index id v payload refresh
    · left
      rw [he] at evolves answered
      rw [answered]
      exact ⟨⟨_, Http.answer_write_ofError ..⟩, evolves⟩
    · right
      rw [done] at evolves answered
      rw [Receipt.ofAnswer, bne_iff_ne.2 kept] at evolves
      have acknowledged := Http.answer_write_written index
        ⟨some id, payload, some v, .index, refresh⟩
        ⟨id, s.client.store.numbered (s.client.store.writes index), result⟩
      rw [answered]
      exact ⟨d, result.word, h.1, h.2, hd, current, acknowledged, evolves, put⟩
  · left
    obtain ⟨e, he⟩ := Server.handle_guardedPut_nowhere s.client index id v payload refresh h
    rw [he] at answered
    rw [answered]
    exact ⟨⟨_, Http.answer_write_ofError ..⟩, .refl _⟩

end Loopback

end VersionedStore
