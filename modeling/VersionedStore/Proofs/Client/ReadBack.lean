import VersionedStore.Proofs.Client.Calls
import VersionedStore.Proofs.Client.Snapshot
import VersionedStore.Proofs.Server.Shown
import VersionedStore.Proofs.Store.Accepted

/-!
# Reading accepted documents back

A document is accepted if it nests at most 127 levels deep. An answer wraps it up further, by one
level to show it alone and by four levels on a page, and a client reads no more than 127 levels in
all. So a document that was accepted can be read if it nests at most 126 levels deep, and a page if
all of its documents nest at most 123 levels deep; deeper ones make the reading fail.

## Main definitions

* `Wire.RawHit.depth` — how deep the document of a hit nests
* `PageCall.Sendable`, `Loopback.page` — the calls for pages

## Main results

* `Http.page_of_sent` — which pages a client can read
* `Loopback.readBack_of_accepted` — what becomes of a document that was accepted
-/

namespace VersionedStore

open Json

/-! ## Pages that can be read -/

/-- How deep the document of a hit nests. -/
def Wire.RawHit.depth (h : RawHit) : Nat := (h.source.map Value.depth).getD 0

/-- A page of documents that were sent is read just if none of them nests too deeply. -/
theorem Http.page_of_sent {r : Wire.SearchReply} (sent : ∀ h ∈ r.hits, h.Sent) :
    page (.ofText 200 r.toText) =
      if ∀ h ∈ r.hits, h.depth ≤ 123 then
        .ok ⟨r.hits.map Wire.RawHit.shown, r.total, r.handle⟩
      else .error (.answer .unreadable) := by
  split
  · next shallow =>
    refine page_of_carries r (fun h among => ?_) fun h among => ?_
    · obtain ⟨index, versions, e, bytes, rfl, parsed⟩ := sent h among
      obtain ⟨ms, object, proper⟩ := Store.object_of_parseSource parsed
      exact Document.Travels.carries versions ⟨proper, shallow _ among, ms, object⟩
    · obtain ⟨index, versions, e, bytes, rfl, -⟩ := sent h among
      exact Wire.RawHit.whole_hit index versions e
  · next deep =>
    obtain ⟨h, among, deep⟩ : ∃ h ∈ r.hits, 123 < h.depth := by simpa using deep
    obtain ⟨index, versions, e, bytes, rfl, -⟩ := sent h among
    have unread : decode Wire.SearchReply.read none (.ofText 200 r.toText) =
        .error (.answer .unreadable) := by
      rw [decode, if_pos (by rfl), Reply.ofText,
        Wire.SearchReply.parse?_toText_of_deep among rfl deep]
    rw [page, unread]

/-- The calls for a page that the protocol can carry: a search names its index, and its query does
not nest too deeply. -/
def PageCall.Sendable : PageCall → Prop
  | search index b _ => index ≠ "" ∧ ∀ v ∈ b.query, v.Proper ∧ v.depth ≤ 126
  | advance .. => True

namespace Loopback

/-- The answer to a call for a page. -/
def page (config : HttpConfig) (c : PageCall) (s : Http.Connection Server) :
    Except ClientError Wire.Page :=
  match c with
  | .search index b lease => (transport config (.search index b lease) s).1
  | .advance handle lease => (transport config (.advance handle lease) s).1

variable {config : HttpConfig} (bare : Bare config.base)

include bare

/-- A call for a page is answered by the page of the server. -/
theorem page_eq {c : PageCall} (sendable : c.Sendable) (s : Http.Connection Server) :
    page config c s = Http.page (Server.told (s.client.page c) fun p => .ofText 200 p.toText) := by
  cases c with
  | search index b lease =>
    obtain ⟨named, proper⟩ := sendable
    have read := Wire.SearchBody.parse?_toText b proper
    have route : Route.ofSegments? "POST" ([index, "_search"].filter (· ≠ "")) =
        some (.search index) := by
      simp [named, Route.ofSegments?, Route.ofPair?]
    cases lease with
    | none =>
      have answered : (s.client.answer ⟨"POST",
          String.ofList (Target.pathOf [index, "_search"]), b.toText.write⟩).1 =
            (s.client.page (.search index b none)).map fun p => .ofText 200 p.toText := by
        rw [Server.answer]
        simp only [Target.parse_pathOf, route, Server.run]
        exact Server.search_page read (by simp)
      exact answer_of_told bare (Http.draft_plainSearch index b) rfl answered
    | some lease =>
      have answered : (s.client.answer ⟨"POST",
          String.ofList (Target.pathOf [index, "_search"] ++
            '?' :: Target.queryOf [("scroll", lease.lease)]), b.toText.write⟩).1 =
            (s.client.page (.search index b (some lease))).map fun p => .ofText 200 p.toText := by
        rw [Server.answer]
        simp only [Target.parse_pathOf_queryOf _ (show [("scroll", lease.lease)] ≠ [] by simp),
          route, Server.run]
        exact Server.search_page read (by simp [Table.ofList])
      exact answer_of_told bare (Http.draft_search index b lease) rfl answered
  | advance handle lease =>
    have route : Route.ofSegments? "POST" (["_search", "scroll"].filter (· ≠ "")) =
        some .advance := by decide
    have answered : (s.client.answer ⟨"POST",
        String.ofList (Target.pathOf ["_search", "scroll"]),
        (Wire.ScrollBody.toText ⟨lease.lease, handle⟩).write⟩).1 =
          (s.client.page (.advance handle lease)).map fun p => .ofText 200 p.toText := by
      rw [Server.answer]
      simp only [Target.parse_pathOf, route, Server.run]
      exact Server.advance_page (Wire.ScrollBody.parse?_toText ⟨lease.lease, handle⟩)
    exact answer_of_told bare (Http.draft_advance handle lease) rfl answered

/-- A reading shows the live document, unless it nests too deeply. -/
theorem get_live {s : Http.Connection Server} (sent : s.client.store.Sent) {index id : String}
    (named : index ≠ "") (known : id ≠ "") {d : Document}
    (live : s.client.store.document? index id = some d) :
    (transport config (.get index id) s).1 =
      if d.source.depth ≤ 126 then .ok (some ⟨id, d.version, d.source.reread.write⟩)
      else .error (.answer .unreadable) := by
  obtain ⟨bytes, parsed⟩ := sent index id d (.inl live)
  obtain ⟨ms, object, proper⟩ := Store.object_of_parseSource parsed
  have shown := Http.answer_get_found index id d.version ms
  rw [← object, Value.ofText?_toText_eq proper] at shown
  rw [transport_of_answer bare (Http.draft_get index id) rfl (s.client.answer_get named known)]
  obtain ⟨absent, -⟩ | ⟨d', live', found⟩ := s.client.store.get_cases index id
  · rw [absent] at live
    cases live
  · obtain rfl := Option.some.inj (live.symm.trans live')
    simp only [found, Server.told, ↓reduceIte, shown]
    by_cases shallow : d.source.depth ≤ 126
    · rw [if_pos shallow, if_pos shallow]
    · rw [if_neg shallow, if_neg shallow]

/-- A document that was accepted, by a write or by an action of a bulk request, is there as long as
no later request succeeds at it: it is shown with its id, with the version that it was accepted
with, and with its source as read back from its printed form, if it nests at most 126 levels deep;
but it may nest 127 levels deep, and then it cannot be read. After a refresh of the index a search
finds no other version of it. A page that has the document shows it in the same way if all its
documents nest at most 123 levels deep, and otherwise no document of the page can be read. -/
theorem readBack_of_accepted {s : Server} (faithful : s.Faithful) {index id : String}
    (named : index ≠ "") (known : id ≠ "") {payload : Bytes} {v : Version} {o : Operation}
    (accepted : s.store.Accepts index id payload v o) {r : Request} (asked : r.operation? = some o)
    {later : List Request}
    (untouched : ∀ receipt ∈ ((s.store.execute o).2.executeAll
      (later.filterMap Request.operation?)).1, receipt.concerns index id = false) :
    let s' := s.after (r :: later)
    ∃ d, Store.parseSource payload = .ok d ∧ d.depth ≤ 127 ∧ (d.Steady → d.reread = d) ∧
      (transport config (.get index id) ⟨s', none⟩).1 =
        (if d.depth ≤ 126 then .ok (some ⟨id, v, d.reread.write⟩)
        else .error (.answer .unreadable)) ∧
      (Operation.refresh index ∈ later.filterMap Request.operation? →
        ∀ b lease p, s'.page (.search index b lease) = .ok p →
          ∀ h ∈ p.hits, h.id = id → h = Store.hit index b.versions (id, ⟨v, d⟩)) ∧
      ∀ (c : PageCall) (versions : Bool) p, c.Sendable → s'.page c = .ok p →
        Store.hit index versions (id, ⟨v, d⟩) ∈ p.hits →
        if ∀ h ∈ p.hits, h.depth ≤ 123 then
          ∃ shown, page config c ⟨s', none⟩ = .ok shown ∧
            ⟨id, if versions then some v else none, d.reread.write⟩ ∈ shown.hits
        else page config c ⟨s', none⟩ = .error (.answer .unreadable) := by
  intro s'
  obtain ⟨d, parsed, put⟩ := accepted.live
  have faithful' : s'.Faithful := faithful.after (r :: later)
  have store : s'.store =
      ((s.store.execute o).2.executeAll (later.filterMap Request.operation?)).2 := by
    rw [Server.store_after_eq, List.filterMap_cons_some asked]
    rfl
  have live : s'.store.document? index id = some ⟨v, d⟩ := by
    rw [store]
    exact Store.live_executeAll put untouched
  have shown := get_live bare (s := ⟨s', none⟩) faithful'.store named known live
  refine ⟨d, parsed, Store.depth_le_of_parseSource parsed, Value.reread_eq, shown,
    fun refreshed b lease p given h among same => ?_,
    fun c versions p sendable given among => ?_⟩
  · have clean : (s.store.execute o).2.Clean := (s.store.reaches_execute o).clean faithful.clean
    have published := Store.published_executeAll clean put untouched refreshed
    rw [← store, ← same] at published
    obtain ⟨d', found, eq⟩ := Server.mem_page given among
    rw [eq, ← same, Option.some.inj (found.symm.trans published)]
  · have told := page_eq bare sendable ⟨s', none⟩
    rw [given, Server.told, Http.page_of_sent (faithful'.sent_of_page given)] at told
    split
    · next shallow =>
      rw [if_pos shallow] at told
      refine ⟨_, told, List.mem_map.2 ⟨_, among, ?_⟩⟩
      cases versions <;> rfl
    · next deep => rwa [if_neg deep] at told

omit bare

/-- The request to put a document. -/
def deposit (source : Bytes) : Request := ⟨"PUT", "/things/_doc/a", source⟩

/-- The request to publish its index. -/
def publication : Request := ⟨"POST", "/things/_refresh", []⟩

/-- A small document is read back as it was sent. -/
theorem readBack_of_accepted_small :
    let s := Server.empty {}
    let source := Utf8.encode "\x7b\"n\":1\x7d"
    let o := Operation.write "things" (some "a") .index none source .none
    (Bare Repository.nearby.base ∧ s.Faithful ∧ s.store.Accepts "things" "a" source ⟨1, 0⟩ o ∧
      (deposit source).operation? = some o ∧
      ∀ receipt ∈ ((s.store.execute o).2.executeAll
        ([publication].filterMap Request.operation?)).1, receipt.concerns "things" "a" = false) ∧
      (transport Repository.nearby (.get "things" "a")
        ⟨s.after [deposit source, publication], none⟩).1 = .ok (some ⟨"a", ⟨1, 0⟩, source⟩) := by
  intro s source o
  have bare : Bare Repository.nearby.base := ⟨"a".toList, by decide +kernel, by decide⟩
  have accepted : s.store.Accepts "things" "a" source ⟨1, 0⟩ o :=
    .write (show (s.store.write "things" (some "a") .index none source .none).1 =
      .ok ⟨"a", ⟨1, 0⟩, .created⟩ by decide +kernel)
  have asked : (deposit source).operation? = some o := by decide +kernel
  have untouched : ∀ receipt ∈ ((s.store.execute o).2.executeAll
      ([publication].filterMap Request.operation?)).1,
      receipt.concerns "things" "a" = false := by decide +kernel
  obtain ⟨d, parsed, -, -, shown, -⟩ := readBack_of_accepted bare (Server.faithful_empty {})
    (by decide) (by decide) accepted asked untouched
  have small : (Store.parseSource source).toOption.all
      fun d => d.depth ≤ 126 ∧ d.reread.write = source := by decide +kernel
  rw [parsed] at small
  obtain ⟨shallow, same⟩ := of_decide_eq_true small
  rw [if_pos shallow, same] at shown
  exact ⟨⟨bare, Server.faithful_empty {}, accepted, asked, untouched⟩, shown⟩

/-- A document that nests 127 levels deep. -/
def nested : Bytes :=
  Utf8.encode (String.ofList ("\x7b\"a\":".toList ++ List.replicate 126 '[' ++
    List.replicate 126 ']' ++ "\x7d".toList))

/-- A document that nests too deeply is accepted, but it cannot be read, and it makes a search over
its index fail. -/
theorem accepted_unreadable :
    let s := Server.empty {}
    let s' := s.after [deposit nested, publication]
    (s.handle (deposit nested)).1.status = 201 ∧
      (transport Repository.nearby (.get "things" "a") ⟨s', none⟩).1 =
        .error (.answer .unreadable) ∧
      page Repository.nearby (.search "things" (.ofQuery none 10) none) ⟨s', none⟩ =
        .error (.answer .unreadable) := by
  decide +kernel

end Loopback

end VersionedStore
