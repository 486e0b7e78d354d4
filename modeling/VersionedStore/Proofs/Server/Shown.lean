import VersionedStore.Proofs.Client.Operations
import VersionedStore.Proofs.Store.Reach

/-!
# What a server shows

A server shows nothing but documents that were sent to it: on the pages of its searches, and on
the pages that are still to come of its open scrolls.

## Main definitions

* `Wire.RawHit.Sent` — a hit of a document that was sent
* `Server.Faithful` — all that a server may show was sent
* `PageCall`, `Server.page` — the calls that are answered by a page, and that page

## Main results

* `Server.Faithful.after` — a server stays faithful, whatever is sent to it
* `Server.Faithful.sent_of_page` — the pages of a faithful server
* `Server.search_page`, `Server.advance_page` — the answers that tell a page
-/

namespace VersionedStore

open Json

/-- A hit of a document that was sent as JSON. -/
def Wire.RawHit.Sent (h : RawHit) : Prop :=
  ∃ index versions e bytes, h = Store.hit index versions e ∧
    Store.parseSource bytes = .ok e.2.source

/-! ## Scrolls -/

namespace Scrolls

/-- All hits that are still to come are of documents that were sent. -/
def Sent (r : Scrolls) : Prop :=
  ∀ handle c, r.contexts.find? handle = some c → ∀ h ∈ c.remaining, h.Sent

variable {r : Scrolls}

theorem sent_empty (handles : NameSupply) : (empty handles).Sent := by
  intro handle c found
  simp [empty] at found

namespace Sent

theorem purge (h : r.Sent) : r.purge.Sent := by
  intro handle c found
  rw [Scrolls.purge, Table.find?_filter, Option.filter_eq_some_iff] at found
  exact h handle c found.1

/-- To put a scroll under a handle, its hits must be of documents that were sent. -/
theorem insert (h : r.Sent) (handle : String) {c : Scroll} (sent : ∀ h ∈ c.remaining, h.Sent)
    (named : Names) : Sent ⟨r.contexts.insert handle c, named⟩ := by
  intro other c' found
  rw [Table.find?_insert] at found
  split at found
  · rw [← Option.some.inj found]
    exact sent
  · exact h other c' found

theorem start (h : r.Sent) {hits : List Wire.RawHit} (sent : ∀ h ∈ hits, h.Sent) (pageSize : Nat)
    (lease : Duration) : (r.start hits pageSize lease).2.Sent :=
  h.purge.insert _ (fun h among => sent h (List.mem_of_mem_drop among)) _

theorem advance (h : r.Sent) (handle : String) (lease : Duration) :
    (r.advance handle lease).2.Sent := by
  unfold Scrolls.advance
  simp only
  split
  · exact h.purge
  · next c found =>
    exact h.purge.insert handle
      (fun hit among => h.purge handle c found hit (List.mem_of_mem_drop among)) _

theorem releaseAll (h : r.Sent) (handles : List String) : (r.releaseAll handles).2.Sent := by
  induction handles generalizing r with
  | nil => exact h
  | cons handle handles ih =>
    refine ih fun other c found => ?_
    rw [release, Table.find?_erase] at found
    split at found
    · cases found
    · exact h other c found

/-- The page of a scroll is of documents that were sent. -/
theorem of_advance (h : r.Sent) {handle : String} {lease : Duration} {p : Wire.SearchReply}
    (next : (r.advance handle lease).1 = .ok p) : ∀ h ∈ p.hits, h.Sent := by
  unfold Scrolls.advance at next
  simp only at next
  split at next
  · cases next
  · next c found =>
    rw [← Except.ok.inj next]
    exact fun hit among => h.purge handle c found hit (List.mem_of_mem_take among)

end Sent

end Scrolls

/-! ## Servers -/

namespace Server

/-- All that a server may show was sent to it, and what was published is what reads see. -/
structure Faithful (s : Server) : Prop where
  store : s.store.Sent
  clean : s.store.Clean
  scrolls : s.scrolls.Sent

theorem faithful_empty (config : StoreConfig) {ids handles : NameSupply} :
    (empty config ids handles).Faithful :=
  ⟨Store.sent_empty config, Store.clean_empty config, Scrolls.sent_empty handles⟩

variable {s : Server}

/-- The hits of a search are published documents. -/
theorem mem_hits {index : String} {b : Wire.SearchBody} {found : List Wire.RawHit}
    (search : s.hits index b = .ok found) {h : Wire.RawHit} (among : h ∈ found) :
    ∃ d, (s.store.indexOrEmpty index).published.find? h.id = some d ∧
      h = Store.hit index b.versions (h.id, d) := by
  rw [hits] at search
  split at search
  · cases search
  obtain ⟨q, -, search⟩ := bind_eq_ok_iff.1 search
  obtain missing | selected := s.store.search_cases index q b.versions
  · rw [missing] at search
    cases search
  · rw [selected] at search
    rw [← Except.ok.inj search] at among
    obtain ⟨e, he, rfl⟩ := List.mem_map.1 among
    exact ⟨e.2, ((((s.store.indexOrEmpty index).finds_select q).mem_iff e.1 e.2).1 he).1, rfl⟩

namespace Faithful

theorem sent_of_published (h : s.Faithful) {index id : String} {d : Document}
    (published : (s.store.indexOrEmpty index).published.find? id = some d) (versions : Bool) :
    (Store.hit index versions (id, d)).Sent := by
  obtain ⟨bytes, parsed⟩ := h.store index id d (.inr published)
  exact ⟨index, versions, (id, d), bytes, rfl, parsed⟩

theorem sent_of_hits (h : s.Faithful) {index : String} {b : Wire.SearchBody}
    {found : List Wire.RawHit} (search : s.hits index b = .ok found) : ∀ h ∈ found, h.Sent := by
  intro hit among
  obtain ⟨d, published, eq⟩ := mem_hits search among
  rw [eq]
  exact h.sent_of_published published b.versions

theorem scrolls_handle (h : s.Faithful) (r : Request) : (s.handle r).2.scrolls.Sent := by
  by_cases apart : r.Apart
  · rw [s.scrolls_handle apart]
    exact h.scrolls
  rw [Request.Apart, Request.route?] at apart
  rw [handle_snd, answer]
  cases found : Route.ofSegments? r.method (Target.parse r.target).segments with
  | none => simp [found] at apart
  | some route =>
    simp only [found] at apart ⊢
    cases route with
    | search index =>
      rw [run]
      unfold search
      split
      · exact h.scrolls
      · split
        · exact h.scrolls
        · next hits search =>
          split
          · exact h.scrolls
          · split
            · exact h.scrolls
            · exact h.scrolls.start (h.sent_of_hits search) _ _
    | advance =>
      rw [run]
      unfold advance
      split
      · exact h.scrolls
      · split
        · exact h.scrolls
        · exact h.scrolls.advance _ _
    | clear =>
      rw [run]
      unfold clear
      split
      · exact h.scrolls
      · exact h.scrolls.purge.releaseAll _
    | bulk | get | put | create | delete | count | refresh => exact absurd trivial apart

/-- A request leaves a server faithful. -/
theorem handle (h : s.Faithful) (r : Request) : (s.handle r).2.Faithful where
  store := s.sent_handle h.store r
  clean := by
    rw [store_handle_eq]
    exact (s.store.reaches_executeAll _).clean h.clean
  scrolls := h.scrolls_handle r

/-- Whatever is sent to a server, it stays faithful. -/
theorem after (h : s.Faithful) (requests : List Request) : (s.after requests).Faithful := by
  induction requests generalizing s with
  | nil => exact h
  | cons r requests ih => exact ih (h.handle r)

end Faithful

end Server

/-! ## Pages -/

/-- A call that is answered by a page. -/
inductive PageCall
  | search (index : String) (body : Wire.SearchBody) (lease : Option Duration)
  | advance (handle : String) (lease : Duration)

namespace Server

/-- The page that a call is answered with, where a query arrives as its printed form is read. -/
def page (s : Server) : PageCall → Except StoreError Wire.SearchReply
  | .search index b lease => do
    let hits ← s.hits index { b with query := b.query.map Value.reread }
    match lease with
    | none => return ⟨none, 0, .exact (UInt64.ofNat hits.length), hits.take b.size.toNat⟩
    | some lease => return (s.scrolls.start hits b.size.toNat (← s.scrollLease b lease.lease)).1
  | .advance handle lease => do (s.scrolls.advance handle (← s.lease lease.lease)).1

variable {s : Server}

/-- A page of a search has published documents. -/
theorem mem_page {index : String} {b : Wire.SearchBody} {lease : Option Duration}
    {p : Wire.SearchReply} (given : s.page (.search index b lease) = .ok p) {h : Wire.RawHit}
    (among : h ∈ p.hits) : ∃ d, (s.store.indexOrEmpty index).published.find? h.id = some d ∧
      h = Store.hit index b.versions (h.id, d) := by
  obtain ⟨hits, search, given⟩ := bind_eq_ok_iff.1 given
  refine mem_hits search ?_
  cases lease with
  | none =>
    rw [← Except.ok.inj given] at among
    exact List.mem_of_mem_take among
  | some lease =>
    obtain ⟨d, -, given⟩ := bind_eq_ok_iff.1 given
    rw [← Except.ok.inj given] at among
    exact List.mem_of_mem_take among

/-- A faithful server has pages of documents that were sent. -/
theorem Faithful.sent_of_page (h : s.Faithful) {c : PageCall} {p : Wire.SearchReply}
    (given : s.page c = .ok p) : ∀ h ∈ p.hits, h.Sent := by
  cases c with
  | search index b lease =>
    intro hit among
    obtain ⟨d, published, eq⟩ := mem_page given among
    rw [eq]
    exact h.sent_of_published published b.versions
  | advance handle lease =>
    obtain ⟨d, -, next⟩ := bind_eq_ok_iff.1 given
    exact h.scrolls.of_advance next

/-- A search is answered by its page. -/
theorem search_page {index : String} {b : Wire.SearchBody} {body : Bytes} {params : Params}
    {lease : Option Duration}
    (read : Wire.parse? Wire.SearchBody.read body = some { b with query := Wire.arrived b.query })
    (param : params.find? "scroll" = lease.map Duration.lease) :
    (s.search index params body).1 =
      (s.page (.search index b lease)).map fun p => .ofText 200 p.toText := by
  have same : s.hits index { b with query := Wire.arrived b.query } =
      s.hits index { b with query := b.query.map Value.reread } := by
    simp only [hits, query_arrived]
  unfold search page
  simp only [searchBody, if_neg (ne_nil_of_parse? read), readBody_of_parse? read, same, param]
  cases s.hits index { b with query := b.query.map Value.reread } with
  | error e => rfl
  | ok hits =>
    cases lease with
    | none => rfl
    | some lease =>
      have leased : s.scrollLease { b with query := Wire.arrived b.query } lease.lease =
        s.scrollLease b lease.lease := rfl
      simp only [Option.map_some, leased, bind, Except.bind]
      cases s.scrollLease b lease.lease <;> rfl

/-- A request for the next page is answered by it. -/
theorem advance_page {handle : String} {lease : Duration} {body : Bytes}
    (read : Wire.parse? Wire.ScrollBody.read body = some ⟨lease.lease, handle⟩) :
    (s.advance body).1 =
      (s.page (.advance handle lease)).map fun p => .ofText 200 p.toText := by
  unfold advance page
  simp only [readBody_of_parse? read, bind, Except.bind]
  cases s.lease lease.lease <;> rfl

end Server

end VersionedStore
