import VersionedStore.Proofs.Client.Operations
import VersionedStore.Proofs.Server.Scrolls
import VersionedStore.Proofs.Store.Search

/-!
# Pages of a search

What the calls about a search do at the server. A page shows the documents of its hits with their
versions; as documents are printed and read on the way, a client sees what their printed forms are
read as.

## Main definitions

* `Document.Travels` — the documents that a page can show
* `Wire.Hit.showing`, `Wire.RawHit.shown` — how a page shows a document, and a hit

## Main results

* `Loopback.transport_search_eq`, `Loopback.transport_advance_eq` — a search that goes on and its
  further pages, by what the server says to the lease
* `Loopback.transport_search`, `Loopback.transport_advance`, `Loopback.transport_release`,
  `Loopback.transport_count` — the calls of a search whose lease is accepted
-/

namespace VersionedStore

open Json

/-! ## Hits -/

/-- A document that a page can show: a proper object that does not nest too deeply. -/
structure Document.Travels (d : Document) : Prop where
  proper : d.source.Proper
  depth : d.source.depth ≤ 123
  object : ∃ ms, d.source = .object ms

/-- The hit by which a page shows a document of an id. -/
def Wire.Hit.showing (e : String × Document) : Wire.Hit :=
  ⟨e.1, some e.2.version, e.2.source.reread.write⟩

variable {index : String} {found : List (String × Document)}

theorem Document.Travels.carries (versions : Bool) {e : String × Document} (h : e.2.Travels) :
    (Store.hit index versions e).Carries 123 where
  proper v hv := by
    rw [← Option.some.inj hv]
    exact h.proper
  depth v hv := by
    rw [← Option.some.inj hv]
    exact h.depth
  present v hv := by
    obtain ⟨ms, hms⟩ := h.object
    rw [← Option.some.inj hv, hms]
    simp

/-- How a page shows a hit. -/
def Wire.RawHit.shown (h : RawHit) : Hit :=
  ⟨h.id, (Version.ofParts? h.sequence h.epoch).join,
    (h.source.map fun v => v.reread.write).getD emptyDocument⟩

/-- A hit is shown if it has both parts of a version, or none. -/
theorem Wire.RawHit.toHit_reread {h : RawHit}
    (whole : (Version.ofParts? h.sequence h.epoch).isSome) : h.reread.toHit = .ok h.shown := by
  obtain ⟨v, parts⟩ := Option.isSome_iff_exists.1 whole
  rw [toHit, reread, shown]
  simp only [parts, Option.map_map, Option.join_some]
  rfl

theorem Wire.RawHit.whole_hit (index : String) (versions : Bool) (e : String × Document) :
    (Version.ofParts? (Store.hit index versions e).sequence
      (Store.hit index versions e).epoch).isSome := by
  cases versions <;> rfl

/-- A page of hits that carry their documents is shown hit by hit. -/
theorem Http.page_of_carries (r : Wire.SearchReply) (carries : ∀ h ∈ r.hits, h.Carries 123)
    (whole : ∀ h ∈ r.hits, (Version.ofParts? h.sequence h.epoch).isSome) :
    page (.ofText 200 r.toText) = .ok ⟨r.hits.map Wire.RawHit.shown, r.total, r.handle⟩ := by
  have all (hits : List Wire.RawHit)
      (whole : ∀ h ∈ hits, (Version.ofParts? h.sequence h.epoch).isSome) :
      (hits.map Wire.RawHit.reread).mapM Wire.RawHit.toHit = .ok (hits.map Wire.RawHit.shown) := by
    induction hits with
    | nil => rfl
    | cons h hits ih =>
      obtain ⟨first, others⟩ := List.forall_mem_cons.1 whole
      simp only [List.map_cons, List.mapM_cons, Wire.RawHit.toHit_reread first, ih others]
      rfl
  rw [page, decode, if_pos (by rfl), Reply.ofText]
  simp only [Wire.SearchReply.parse?_toText r carries]
  rw [Wire.SearchReply.toPage]
  simp only [all r.hits whole]
  rfl

/-- A page of documents is shown as such. -/
theorem Http.page_hits (index : String) (handle : Option String) (total : Wire.Total)
    (travels : ∀ e ∈ found, e.2.Travels) :
    page (.ofText 200 (Wire.SearchReply.toText
      ⟨handle, 0, total, found.map (Store.hit index true)⟩)) =
      .ok ⟨found.map .showing, total, handle⟩ := by
  rw [page_of_carries, List.map_map]
  -- With versions every hit tells all that it is shown with.
  · rfl
  · intro h hh
    obtain ⟨e, he, rfl⟩ := List.mem_map.1 hh
    exact (travels e he).carries true
  · intro h hh
    obtain ⟨e, -, rfl⟩ := List.mem_map.1 hh
    exact Wire.RawHit.whole_hit index true e

/-! ## Calls -/

namespace Loopback

variable {config : HttpConfig} (bare : Bare config.base) (s : Http.Connection Server)

include bare

/-- A search that goes on shows its first page and opens a scroll, or it shows the refusal of its
lease. -/
theorem transport_search_eq {index : String} (named : index ≠ "") {ix : Index}
    (here : s.client.store.index index = .ok ix) {b : Wire.SearchBody}
    (proper : ∀ v ∈ b.query, v.Proper ∧ v.depth ≤ 126) {q : Query}
    (valid : Query.parse (b.query.map Value.reread) = .ok q) (positive : b.size ≠ 0)
    (small : b.size ≤ s.client.store.config.maxPage) (lease : Duration) :
    transport config (.search index b (some lease)) s =
      match s.client.lease lease.lease with
      | .error e => (Http.page (.ofError e), ⟨s.client, none⟩)
      | .ok d =>
        let opened := s.client.scrolls.start ((ix.select q).map (Store.hit index b.versions))
          b.size.toNat d
        (Http.page (.ofText 200 opened.1.toText), ⟨{ s.client with scrolls := opened.2 }, none⟩) := by
  rw [← Query.parse_arrived] at valid
  rw [transport_of_draft bare (Http.draft_search index b lease) rfl, Option.getD_some,
    s.client.handle_search named here (Wire.SearchBody.parse?_toText b proper) valid positive small
      lease.lease]
  cases s.client.lease lease.lease <;> rfl

section Search

variable (named : index ≠ "") {ix : Index} (here : s.client.store.index index = .ok ix)
  {query : Option Value} (proper : ∀ v ∈ query, v.Proper ∧ v.depth ≤ 126) {q : Query}
  (valid : Query.parse (query.map Value.reread) = .ok q)

include named here proper valid

/-- A search that goes on shows the documents of its first page and opens a scroll. -/
theorem transport_search {size : UInt32} (positive : size ≠ 0)
    (small : size ≤ s.client.store.config.maxPage) {lease d : Duration}
    (leased : s.client.lease lease.lease = .ok d) (travels : ∀ e ∈ ix.select q, e.2.Travels) :
    transport config (.search index (.ofQuery query size) (some lease)) s =
      (.ok ⟨((ix.select q).take size.toNat).map .showing,
          .exact (UInt64.ofNat (ix.select q).length), some s.client.scrolls.named.next⟩,
        ⟨{ s.client with scrolls := (s.client.scrolls.start
          ((ix.select q).map (Store.hit index true)) size.toNat d).2 }, none⟩) := by
  have first := Http.page_hits index (some s.client.scrolls.named.next)
    (.exact (UInt64.ofNat (ix.select q).length))
    fun e he => travels e (List.mem_of_mem_take (i := size.toNat) he)
  rw [transport_search_eq bare s named here (b := .ofQuery query size) proper valid positive small,
    leased]
  simp only [Wire.SearchBody.ofQuery, Scrolls.start, Scroll.page, List.length_map, ← List.map_take,
    first]

/-- A count tells how many documents a search has to find. -/
theorem transport_count : transport config (.count index query) s =
    (.ok (UInt64.ofNat (ix.select q).length), ⟨s.client, none⟩) := by
  have read := Wire.CountBody.parse?_toText proper
  have found : (do s.client.store.count index (← Server.query (query.map Value.reread))) =
      .ok (UInt64.ofNat (ix.select q).length) := by
    simp only [Server.query, valid, Except.mapError, Store.count, here, bind, Except.bind, pure,
      Except.pure]
  rw [transport_of_answer bare (Http.draft_count index query) rfl
    (s.client.answer_count named read), found]
  have counted : Http.decode Wire.CountReply.read none (.ofText 200 (Wire.CountReply.toText
      ⟨UInt64.ofNat (ix.select q).length⟩)) = .ok ⟨UInt64.ofNat (ix.select q).length⟩ := by
    rw [Http.decode, if_pos (by rfl), Reply.ofText, Wire.CountReply.parse?_toText]
  simp only [Http.answer, Server.told, counted]
  rfl

end Search

/-- A request for the next page shows what the scroll answers, or the refusal of its lease. -/
theorem transport_advance_eq (handle : String) (lease : Duration) :
    transport config (.advance handle lease) s =
      match s.client.lease lease.lease with
      | .error e => (Http.page (.ofError e), ⟨s.client, none⟩)
      | .ok d =>
        let next := s.client.scrolls.advance handle d
        (Http.page (match next.1 with
          | .error e => .ofError e
          | .ok page => .ofText 200 page.toText), ⟨{ s.client with scrolls := next.2 }, none⟩) := by
  rw [transport_of_draft bare (Http.draft_advance handle lease) rfl, Option.getD_some,
    s.client.handle_advance (Wire.ScrollBody.parse?_toText ⟨lease.lease, handle⟩)]
  dsimp only
  cases s.client.lease lease.lease <;> rfl

/-- A request for the next page shows its documents, and its hits are no longer to come. -/
theorem transport_advance {handle : String} {total : Wire.Total} {pageSize : Nat}
    (holds : s.client.scrolls.Holds handle (found.map (Store.hit index true)) total pageSize)
    {lease d : Duration} (leased : s.client.lease lease.lease = .ok d) (some_time : d ≠ .zero)
    (travels : ∀ e ∈ found, e.2.Travels) :
    transport config (.advance handle lease) s =
      (.ok ⟨(found.take pageSize).map .showing, total, some handle⟩,
        ⟨{ s.client with scrolls := (s.client.scrolls.advance handle d).2 }, none⟩) := by
  have next := Http.page_hits index (some handle) total
    fun e he => travels e (List.mem_of_mem_take (i := pageSize) he)
  rw [transport_advance_eq bare s handle lease, leased]
  simp only [(holds.advance some_time).1, ← List.map_take, next]

/-- A release is always carried out: a handle that is not open is as good as released. -/
theorem transport_release (handle : String) : transport config (.release handle) s =
    (.ok (), ⟨{ s.client with scrolls := (s.client.scrolls.clear [handle]).2 }, none⟩) := by
  obtain ⟨reply, carriedOut, handled⟩ :=
    s.client.handle_clear (Wire.ClearBody.parse?_toText ⟨[handle]⟩)
  rw [transport_of_draft bare (Http.draft_release handle) rfl, Option.getD_some, handled]
  simp only [Http.answer]
  obtain missing | success := carriedOut
  · rw [if_pos missing]
  · rw [Http.done, if_pos success, ite_self]

end Loopback

end VersionedStore
