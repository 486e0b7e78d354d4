import VersionedStore.Proofs.Client.ReadBack
import VersionedStore.Proofs.Client.Transparency
import VersionedStore.Proofs.Store.Singly

/-!
# The ids of documents

In a bulk request the id of a document is a JSON string, in a single request it is a segment of
the path, where a server leaves out empty segments. So the two take the same ids but for one: a
bulk request can put a document under the empty id, and then no single request finds it.

## Main definitions

* `Loopback.Addressable` — a document is read, replaced under its version and deleted
* `Loopback.Nowhere` — an id that no request reaches

## Main results

* `Loopback.addressable_of_live`, `Loopback.nowhere_empty` — of which ids is which true
* `Loopback.addressable_of_bulk` — which documents of a bulk request are addressable
* `Loopback.bulk_nowhere` — a document under the empty id
-/

namespace VersionedStore

open Json

/-! ## Documents that are there -/

namespace Store

variable {s : Store} {name id : String} {v : Version} {d : Value}

theorem hasIndex_of_live {d : Document} (live : s.document? name id = some d) :
    s.hasIndex name = true := by
  rw [hasIndex, Table.contains]
  cases found : s.indices.find? name with
  | some ix => rfl
  | none =>
    rw [document?, indexOrEmpty, found] at live
    cases live

/-- A write that expects the version of the live document replaces it. -/
theorem write_of_live (live : s.document? name id = some ⟨v, d⟩) {payload : Bytes} {d' : Value}
    (parsed : parseSource payload = .ok d') (refresh : RefreshPolicy) :
    ∃ w, (s.write name (some id) .index (some v) payload refresh).1 = .ok w ∧ w.id = id ∧
      (s.write name (some id) .index (some v) payload refresh).2.document? name id =
        some ⟨w.version, d'⟩ := by
  obtain ⟨w, written⟩ :=
    (s.decided_write name id v parsed refresh).accepts (by rw [live, Option.map_some])
  obtain ⟨e, refused⟩ | ⟨d₁, result, parsed₁, -, -, answer, put⟩ :=
    s.write_guarded_cases name id v payload refresh
  · rw [refused] at written
    cases written
  · obtain rfl := Except.ok.inj (parsed.symm.trans parsed₁)
    exact ⟨_, answer, rfl, put⟩

/-- A delete that expects nothing else takes the live document away. -/
theorem delete_of_live (live : s.document? name id = some ⟨v, d⟩) {required : Option Version}
    (expected : ∀ v' ∈ required, v' = v) (refresh : RefreshPolicy) :
    ∃ w, (s.delete name id required refresh).1 = .ok w ∧ w.id = id ∧
      (s.delete name id required refresh).2.document? name id = none := by
  obtain ⟨ix, found⟩ := Option.isSome_iff_exists.1 (hasIndex_of_live live)
  have here : s.index name = .ok ix := by rw [index, found]
  have current : (s.indexOrEmpty name).current id required = .ok (some ⟨v, d⟩) := by
    cases required with
    | none => exact congrArg Except.ok live
    | some v' =>
      have found : (s.indexOrEmpty name).live.find? id = some ⟨v, d⟩ := live
      rw [expected v' rfl, Index.current.eq_def, found]
      exact if_pos rfl
  have deleted : s.deleteAt name id required =
      (.ok ⟨id, s.numbered (s.writes name), .deleted⟩, s.setIndex name
        ((s.indexOrEmpty name).written ((s.indexOrEmpty name).live.erase id))) := by
    simp only [deleteAt, Index.remove, current]
    rfl
  simp only [delete, here, deleted]
  refine ⟨_, rfl, rfl, ?_⟩
  rw [(sameDocuments_settle _ name refresh).document?_eq, document?, indexOrEmpty_setIndex,
    if_pos rfl, Index.written, Table.find?_erase, if_pos rfl]

theorem few_of_bulk {defaultIndex : Option String} {as : List Action}
    {refresh : RefreshPolicy} {reply : Wire.BulkReply}
    (applied : (s.bulk defaultIndex as refresh).1 = .ok reply) :
    as.length ≤ s.config.maxActions := by
  by_contra many
  rw [bulk, if_pos (by omega)] at applied
  cases applied

/-- An item of a bulk request is that of one of its actions, done after those before it. -/
theorem applyAll_at {defaultIndex : Option String} {as : List Action}
    {items others : List Wire.Item} {item : Wire.Item}
    (answered : (s.applyAll defaultIndex as).1 = items ++ item :: others) :
    ∃ before a after, as = before ++ a :: after ∧ before.length = items.length ∧
      (s.applyAll defaultIndex before).2.Done defaultIndex a item
        ((s.applyAll defaultIndex before).2.apply defaultIndex a).2 := by
  have total := s.length_applyAll defaultIndex as
  rw [answered, List.length_append, List.length_cons] at total
  have within : items.length < as.length := by omega
  have split : as = as.take items.length ++ as[items.length] :: as.drop (items.length + 1) := by
    rw [List.getElem_cons_drop, List.take_append_drop]
  have here : (as.take items.length).length = items.length := by
    rw [List.length_take]
    omega
  refine ⟨_, _, _, split, here, ?_⟩
  rw [split, applyAll_append, applyAll] at answered
  obtain ⟨-, rest⟩ := List.append_inj answered (by rw [length_applyAll, here])
  obtain ⟨rfl, -⟩ := List.cons.inj rest
  exact done_apply _ defaultIndex _

theorem eq_ofItems_of_bulk {defaultIndex : Option String} {as : List Action}
    {refresh : RefreshPolicy} {reply : Wire.BulkReply}
    (applied : (s.bulk defaultIndex as refresh).1 = .ok reply) :
    reply = .ofItems 0 reply.items := by
  unfold bulk at applied
  split at applied
  · cases applied
  · rw [← Except.ok.inj applied]
    rfl

/-- An action whose item tells of a document had one. -/
theorem Done.source_of_told {s' : Store} {defaultIndex : Option String} {a : Action}
    {item : Wire.Item} (done : s.Done defaultIndex a item s')
    (told : Receipt.ofItem? item = some ⟨name, id, v, true⟩) :
    ∃ payload, a.source = some payload := by
  cases done with
  | nowhere | nameless | sourceless | deleteNowhere =>
    rw [ofItem?_failure] at told
    cases told
  | write there kind named given => exact ⟨_, given⟩
  | @delete name' id' there kind named there' =>
    cases answer : (s.delete name' id' a.version .none).1 with
    | error e =>
      rw [answer, outcome, ofItem?_failure] at told
      cases told
    | ok w =>
      rw [answer, outcome, ofItem?_success, kind] at told
      cases told

end Store

/-! ## Ids that requests reach -/

namespace Loopback

/-- A document is addressable by its id: it is read, unless it nests too deeply; a write that
expects its version replaces it; and a delete takes it away. -/
structure Addressable (config : HttpConfig) (s : Server) (index id : String) (v : Version)
    (d : Value) : Prop where
  read : (transport config (.get index id) ⟨s, none⟩).1 =
    if d.depth ≤ 126 then .ok (some ⟨id, v, d.reread.write⟩) else .error (.answer .unreadable)
  replaced : ∀ payload policy d', Store.parseSource payload = .ok d' →
    let r := transport config (.write index ⟨some id, payload, some v, .index, policy⟩) ⟨s, none⟩
    ∃ ack, r.1 = .ok ack ∧ ack.id = id ∧
      r.2.client.store.document? index id = some ⟨ack.version, d'⟩
  deleted : ∀ required policy, (∀ v' ∈ required, v' = v) →
    let r := transport config (.delete index id required policy) ⟨s, none⟩
    ∃ ack, r.1 = .ok ack ∧ ack.id = id ∧ r.2.client.store.document? index id = none

/-- No request for a single document reaches an id: all of them fail and change nothing. -/
structure Nowhere (config : HttpConfig) (s : Server) (index id : String) : Prop where
  read : ∃ e, transport config (.get index id) ⟨s, none⟩ = (.error e, ⟨s, none⟩)
  replaced : ∀ payload required policy, ∃ e,
    transport config (.write index ⟨some id, payload, required, .index, policy⟩) ⟨s, none⟩ =
      (.error e, ⟨s, none⟩)
  deleted : ∀ required policy, ∃ e,
    transport config (.delete index id required policy) ⟨s, none⟩ = (.error e, ⟨s, none⟩)

variable {config : HttpConfig} (bare : Bare config.base) {s : Server} {index : String}

include bare

/-- Every document that is there is addressable, if its id is not empty. -/
theorem addressable_of_live (sent : s.store.Sent) (named : index ≠ "") {id : String}
    (known : id ≠ "") {v : Version} {d : Value} (live : s.store.document? index id = some ⟨v, d⟩) :
    Addressable config s index id v d where
  read := get_live bare (s := ⟨s, none⟩) sent named known live
  replaced payload policy d' parsed := by
    obtain ⟨w, written, own, put⟩ := Store.write_of_live live parsed policy
    obtain ⟨arrives, after⟩ := transparent_write bare (s := ⟨s, none⟩) named
      (w := ⟨some id, payload, some v, .index, policy⟩) (by simpa using known)
    simp only [StoreCall.apply, Option.isSome_some, ↓reduceIte, WriteMode.kind] at arrives after
    rw [written] at arrives
    refine ⟨_, arrives.eq_answer, own, ?_⟩
    rw [after]
    exact put
  deleted required policy expected := by
    obtain ⟨w, deleted, own, gone⟩ := Store.delete_of_live live expected policy
    obtain ⟨arrives, after⟩ :=
      transparent_delete bare (s := ⟨s, none⟩) named known required policy
    simp only [StoreCall.apply] at arrives after
    rw [deleted] at arrives
    refine ⟨_, arrives.eq_answer, own, ?_⟩
    rw [after]
    exact gone

/-- A request that no route is for is refused and changes nothing. -/
theorem transport_of_noRoute {c : Call} {method : String} {cs : List Char} {body : Option Bytes}
    (draft : Http.draft c = .ok ⟨method, String.ofList cs, body⟩) (slash : cs.head? = some '/')
    (none : Route.ofSegments? method (Target.parse (String.ofList cs)).segments = none) :
    transport config c ⟨s, Option.none⟩ =
      (Http.answer c (.ofError (.noRoute method (Target.parse (String.ofList cs)).path)),
        ⟨s, Option.none⟩) := by
  rw [transport_of_draft bare draft slash, Server.handle, Server.answer]
  simp only [none]

/-- No single request reaches the empty id: its segment of the path does not count. -/
theorem nowhere_empty (named : index ≠ "") : Nowhere config s index "" where
  read := by
    have noRoute : Route.ofSegments? "GET" ([index, "_doc", ""].filter (· ≠ "")) = none := by
      simp [named, Route.ofSegments?, Route.ofPair?]
    have refused := transport_of_noRoute bare (s := s) (Http.draft_get index "") rfl (by
      rw [Target.parse_pathOf]
      exact noRoute)
    exact ⟨_, refused⟩
  replaced payload required policy := by
    have noRoute : Route.ofSegments? "PUT" ([index, "_doc", ""].filter (· ≠ "")) = none := by
      simp [named, Route.ofSegments?, Route.ofPair?]
    have refused := transport_of_noRoute bare (s := s)
      (Http.draft_put index "" payload required .index policy) rfl (by
        rw [Target.parse_pathOf_queryOf _ (Http.writeParams_ne_nil _ _ _)]
        exact noRoute)
    exact ⟨_, refused⟩
  deleted required policy := by
    have noRoute : Route.ofSegments? "DELETE" ([index, "_doc", ""].filter (· ≠ "")) = none := by
      simp [named, Route.ofSegments?, Route.ofPair?]
    have refused := transport_of_noRoute bare (s := s)
      (Http.draft_delete index "" required policy) rfl (by
        rw [Target.parse_pathOf_queryOf _ (Http.writeParams_ne_nil _ _ _)]
        exact noRoute)
    exact ⟨_, refused⟩

/-! ## Documents of bulk requests -/

/-- A bulk request that is answered has arrived, and its items are those of what has arrived. -/
theorem bulk_of_answer (named : index ≠ "") {actions : List Action} {policy : RefreshPolicy}
    {items : List Wire.Item} {c : Http.Connection Server}
    (answered : transport config (.bulk index actions policy) ⟨s, none⟩ = (.ok items, c)) :
    ∃ body arrived, Bulk.encode actions = .ok body ∧ Bulk.decode body = .ok arrived ∧
      (s.store.bulk (some index) arrived policy).1 = .ok (.ofItems 0 items) ∧
      c = ⟨{ s with store := (s.store.bulk (some index) arrived policy).2 }, none⟩ := by
  cases encoded : Bulk.encode actions with
  | error e =>
    rw [transport, Http.transport, Http.draft, encoded] at answered
    cases congrArg Prod.fst answered
  | ok body =>
    have draft := Http.draft_bulk index encoded policy
    refine ⟨body, ?_⟩
    cases decoded : Bulk.decode body with
    | error e =>
      have route : Route.ofSegments? "POST" ([index, "_bulk"].filter (· ≠ "")) =
          some (.bulk (some index)) := by
        simp [named, Route.ofSegments?, Route.ofPair?]
      rw [transport_of_draft bare draft rfl, Server.handle, Server.answer] at answered
      simp only [Target.parse_pathOf_queryOf _
        (show [("refresh", policy.param)] ≠ [] by simp), route, Server.run, Server.bulk,
        Option.getD_some, decoded, Except.mapError, Http.answer, Http.decode_ofError] at answered
      cases congrArg Prod.fst answered
    | ok arrived =>
      have through := transport_of_answer bare (s := ⟨s, none⟩) draft rfl
        (s.answer_bulk named decoded policy)
      obtain ⟨answer, rfl⟩ := Prod.mk.inj (through.symm.trans answered)
      refine ⟨arrived, rfl, rfl, ?_, rfl⟩
      cases applied : (s.store.bulk (some index) arrived policy).1 with
      | error e =>
        rw [applied] at answer
        simp only [Server.told, Http.answer, Http.decode_ofError] at answer
        cases answer
      | ok reply =>
        have read : Http.answer (.bulk index actions policy) (.ofText 200 reply.toText) =
            .ok reply.items := by
          simp only [Http.answer, Http.decode, Reply.ofText, Wire.BulkReply.parse?_toText]
          rfl
        rw [applied, Server.told, read] at answer
        rw [Store.eq_ofItems_of_bulk applied, Except.ok.inj answer]

/-- Of a document that a bulk request reports as created or updated, with nothing later done to it:
it is the one that arrived, which is the one that was sent if all actions were complete, and it is
addressable, unless its id is empty. Then no single request reaches it, although it is there. -/
theorem addressable_of_bulk (sent : s.store.Sent) (named : index ≠ "") {actions : List Action}
    {policy : RefreshPolicy} {items others : List Wire.Item} {item : Wire.Item}
    {c : Http.Connection Server}
    (answered : transport config (.bulk index actions policy) ⟨s, none⟩ =
      (.ok (items ++ item :: others), c))
    {name id : String} {v : Version} (told : Receipt.ofItem? item = some ⟨name, id, v, true⟩)
    (inside : name ≠ "")
    (last : ∀ r ∈ others.filterMap Receipt.ofItem?, r.concerns name id = false)
    {later : List Request}
    (untouched : ∀ r ∈ (c.client.store.executeAll (later.filterMap Request.operation?)).1,
      r.concerns name id = false) :
    let s' := c.client.after later
    ∃ body arrived a payload d, Bulk.encode actions = .ok body ∧
      Bulk.decode body = .ok arrived ∧
      ((∀ a ∈ actions, a.Complete) → arrived = actions.map Action.carried) ∧
      arrived[items.length]? = some a ∧ a.source = some payload ∧
      Store.parseSource payload = .ok d ∧ s'.store.document? name id = some ⟨v, d⟩ ∧
      if id = "" then Nowhere config s' name id else Addressable config s' name id v d := by
  intro s'
  obtain ⟨body, arrived, encoded, decoded, applied, rfl⟩ := bulk_of_answer bare named answered
  have items_eq := applied
  rw [s.store.bulk_of_few (some index) (Store.few_of_bulk applied)] at items_eq
  obtain ⟨before, a, behind, rfl, here, done⟩ :=
    Store.applyAll_at (congrArg Wire.BulkReply.items (Except.ok.inj items_eq))
  obtain ⟨payload, given⟩ := done.source_of_told told
  have accepted : s.store.Accepts name id payload v
      (.bulk (some index) (before ++ a :: behind) policy) :=
    .item given applied here.symm told last
  obtain ⟨d, parsed, put⟩ := accepted.live
  have store : s'.store = ((s.store.bulk (some index) (before ++ a :: behind) policy).2.executeAll
      (later.filterMap Request.operation?)).2 := Server.store_after_eq _ later
  have kept : s'.store.document? name id = some ⟨v, d⟩ := by
    rw [store]
    exact Store.live_executeAll put untouched
  have sent' : s'.store.Sent := by
    rw [store]
    exact (Store.reaches_executeAll _ _).sent ((s.store.reaches_bulk _ _ policy).sent sent)
  refine ⟨body, _, a, payload, d, encoded, decoded, fun complete => ?_, ?_, given, parsed, kept, ?_⟩
  · obtain ⟨body', encoded', decoded'⟩ := Bulk.decodeLines_encode complete
    obtain rfl := Except.ok.inj (encoded.symm.trans encoded')
    exact Except.ok.inj (decoded.symm.trans (decoded' 1))
  · rw [← here, List.getElem?_append_right (Nat.le_refl _), Nat.sub_self]
    rfl
  · by_cases empty : id = ""
    · rw [if_pos empty, empty]
      exact nowhere_empty bare inside
    · rw [if_neg empty]
      exact addressable_of_live bare sent' inside empty kept

omit bare

/-- The bulk request that puts an empty document under an id. -/
@[reducible] def puts (id : String) : Call :=
  .bulk "things" [.put id none (Utf8.encode "\x7b\x7d")] .none

/-- A document under an id with a slash is read by it. -/
theorem addressable_of_bulk_slash :
    let c := (transport Repository.nearby (puts "a/b") ⟨.empty {}, none⟩).2
    ∃ item, transport Repository.nearby (puts "a/b") ⟨.empty {}, none⟩ = (.ok [item], c) ∧
      Receipt.ofItem? item = some ⟨"things", "a/b", ⟨1, 0⟩, true⟩ ∧
      ∃ d, Addressable Repository.nearby c.client "things" "a/b" ⟨1, 0⟩ d := by
  intro c
  let item : Wire.Item := ⟨.index, Store.success "things" ⟨"a/b", ⟨1, 0⟩, .created⟩⟩
  have answer : (transport Repository.nearby (puts "a/b") ⟨.empty {}, none⟩).1 = .ok [item] := by
    decide +kernel
  have answered : transport Repository.nearby (puts "a/b") ⟨.empty {}, none⟩ =
      (.ok ([] ++ item :: []), c) := Prod.ext answer rfl
  have bare : Bare Repository.nearby.base := ⟨"a".toList, by decide +kernel, by decide⟩
  have told : Receipt.ofItem? item = some ⟨"things", "a/b", ⟨1, 0⟩, true⟩ := rfl
  have last : ∀ r ∈ ([] : List Wire.Item).filterMap Receipt.ofItem?,
      r.concerns "things" "a/b" = false := by simp
  have untouched : ∀ r ∈ (c.client.store.executeAll
      (([] : List Request).filterMap Request.operation?)).1, r.concerns "things" "a/b" = false := by
    simp [Store.executeAll]
  obtain ⟨body, arrived, a, payload, d, -, -, -, -, -, -, -, addressable⟩ :=
    addressable_of_bulk bare (Store.sent_empty {}) (by decide) answered told (by decide) last
      untouched
  exact ⟨item, answered, told, d, addressable⟩

/-- A document under the empty id is reported as created, but it is not read, not replaced and not
deleted. -/
theorem bulk_nowhere :
    let r := transport Repository.nearby (puts "") ⟨.empty {}, none⟩
    let put : WriteRequest := ⟨some "", Utf8.encode "\x7b\x7d", some ⟨1, 0⟩, .index, .none⟩
    r.1.map (fun items => items.map Receipt.ofItem?) =
        .ok [some ⟨"things", "", ⟨1, 0⟩, true⟩] ∧
      (r.2.client.store.document? "things" "").isSome ∧
      (transport Repository.nearby (.get "things" "") r.2).1.isOk = false ∧
      (transport Repository.nearby (.write "things" put) r.2).1.isOk = false ∧
      (transport Repository.nearby (.delete "things" "" none .none) r.2).1.isOk = false := by
  decide +kernel

end Loopback

end VersionedStore
