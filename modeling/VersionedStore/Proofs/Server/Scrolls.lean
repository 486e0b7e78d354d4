import VersionedStore.Proofs.Data.Table
import VersionedStore.Proofs.Duration
import VersionedStore.Proofs.Server.Evolution
import VersionedStore.Proofs.Server.Target
import VersionedStore.Proofs.Wire.Searches

/-!
# Searches at the server

A search that goes on leaves a scroll behind, which holds the hits to come. Only requests about
scrolls touch it: each request for a page takes the hits of that page from it, and a release takes
it away.

## Main definitions

* `Request.Apart` — requests that have nothing to do with scrolls
* `Scrolls.Holds` — what is still to come under a handle
* `Scrolls.Beside` — other handles are not touched

## Main results

* `Server.handle_search`, `Server.handle_advance`, `Server.handle_clear` — how the requests of a
  client are answered
* `Server.scrolls_handle` — requests apart from scrolls leave all scrolls as they are
-/

namespace VersionedStore

open Json

/-! ## Scrolls -/

namespace Scrolls

/-- Under a handle, some hits are still to come, in pages of a size. -/
def Holds (r : Scrolls) (handle : String) (hits : List Wire.RawHit) (total : Wire.Total)
    (pageSize : Nat) : Prop :=
  r.contexts.find? handle = some ⟨hits, total, pageSize, false⟩

variable {r : Scrolls} {handle : String} {hits : List Wire.RawHit} {total : Wire.Total}
  {pageSize : Nat}

/-- A scroll whose lease runs is not dropped. -/
theorem Holds.purge (h : r.Holds handle hits total pageSize) :
    r.purge.Holds handle hits total pageSize := by
  rw [Holds] at h
  rw [Holds, Scrolls.purge, Table.find?_filter, h, Option.filter_some]
  rfl

theorem holds_start (r : Scrolls) (hits : List Wire.RawHit) (pageSize : Nat) {lease : Duration}
    (some_time : lease ≠ .zero) :
    (r.start hits pageSize lease).2.Holds r.named.next (hits.drop pageSize)
      (.exact (UInt64.ofNat hits.length)) pageSize := by
  rw [Holds, start, Table.find?_insert, if_pos rfl, Scroll.rest, decide_eq_false some_time]

theorem Holds.advance (h : r.Holds handle hits total pageSize) {lease : Duration}
    (some_time : lease ≠ .zero) :
    (r.advance handle lease).1 = .ok ⟨some handle, 0, total, hits.take pageSize⟩ ∧
      (r.advance handle lease).2.Holds handle (hits.drop pageSize) total pageSize := by
  have kept := h.purge
  rw [Holds] at kept
  unfold Scrolls.advance
  simp only [kept]
  refine ⟨rfl, ?_⟩
  rw [Holds, Table.find?_insert, if_pos rfl, Scroll.renew, Scroll.rest,
    decide_eq_false some_time]

/-- Nothing is left under a handle that was released, and all else that is dropped has lapsed. -/
theorem find?_clear (r : Scrolls) (handle other : String) :
    (r.clear [handle]).2.contexts.find? other =
      if other = handle then none else r.purge.contexts.find? other := by
  simp [clear, releaseAll, release]

/-- Whatever has not lapsed under other handles is the same. -/
def Beside (handle : String) (r r' : Scrolls) : Prop :=
  ∀ other ≠ handle, r'.purge.contexts.find? other = r.purge.contexts.find? other

/-- What has lapsed is dropped at the first access. -/
private theorem find?_purge_purge (r : Scrolls) (other : String) :
    r.purge.purge.contexts.find? other = r.purge.contexts.find? other := by
  simp [Scrolls.purge, Table.find?_filter]

theorem beside_start (r : Scrolls) (hits : List Wire.RawHit) (pageSize : Nat) (lease : Duration) :
    Beside r.named.next r (r.start hits pageSize lease).2 := by
  intro other hother
  rw [← find?_purge_purge r]
  simp only [start, Scrolls.purge, Table.find?_filter, Table.find?_insert, if_neg hother]

theorem beside_advance (r : Scrolls) (handle : String) (lease : Duration) :
    Beside handle r (r.advance handle lease).2 := by
  intro other hother
  rw [← find?_purge_purge r]
  unfold Scrolls.advance
  simp only
  split
  · rfl
  · simp only [Scrolls.purge, Table.find?_filter, Table.find?_insert, if_neg hother]

end Scrolls

/-! ## Requests apart from scrolls -/

namespace Request

/-- A request that has nothing to do with scrolls: a write, a delete, a bulk request, a refresh, the
reading of a document, a count, a search of one page, or what has no route. -/
def Apart (r : Request) : Prop :=
  match r.route? with
  | some .advance => False
  | some .clear => False
  | some (.search _) => (Target.parse r.target).params.find? "scroll" = none
  | _ => True

end Request

namespace Server

variable (s : Server)

theorem scrolls_write (index : String) (id : Option String) (mode : WriteMode) (params : Params)
    (body : Bytes) : (s.write index id mode params body).2.scrolls = s.scrolls := by
  unfold write
  split <;> rfl

/-- A search of one page opens no scroll. -/
theorem scrolls_search (index : String) {params : Params} (single : params.find? "scroll" = none)
    (body : Bytes) : (s.search index params body).2.scrolls = s.scrolls := by
  unfold search
  rw [single]
  split
  · rfl
  · split <;> rfl

/-- Requests apart from scrolls leave all scrolls as they are. -/
theorem scrolls_handle {r : Request} (h : r.Apart) : (s.handle r).2.scrolls = s.scrolls := by
  rw [Request.Apart, Request.route?] at h
  rw [handle_snd, answer]
  cases found : Route.ofSegments? r.method (Target.parse r.target).segments with
  | none => rfl
  | some route =>
    simp only [found] at h ⊢
    cases route with
    | advance => exact h.elim
    | clear => exact h.elim
    | search index => exact s.scrolls_search index h r.body
    | bulk index =>
      rw [run]
      unfold bulk
      split <;> rfl
    | get index id => rfl
    | put index id =>
      rw [run]
      split
      · rfl
      · exact s.scrolls_write index _ _ _ r.body
    | create index id => exact s.scrolls_write index id .create _ r.body
    | delete index id =>
      rw [run]
      unfold delete
      split <;> rfl
    | count index => rfl
    | refresh index => rfl

theorem scrolls_after {requests : List Request} (h : ∀ r ∈ requests, r.Apart) :
    (s.after requests).scrolls = s.scrolls := by
  induction requests generalizing s with
  | nil => rfl
  | cons r requests ih =>
    rw [after, List.foldl_cons, ← after, ih _ fun r' hr' => h r' (List.mem_cons_of_mem _ hr'),
      s.scrolls_handle (h r List.mem_cons_self)]

/-! ## Leases -/

/-- Which leases are accepted is told by the configuration. -/
theorem lease_eq {s s' : Server} (h : s'.store.config = s.store.config) (word : String) :
    s'.lease word = s.lease word := by
  unfold lease
  rw [h]

/-- A lease that is accepted is for some time. -/
theorem ne_zero_of_lease {s : Server} {lease d : Duration}
    (accepted : s.lease lease.lease = .ok d) : d ≠ .zero := by
  simp only [Server.lease, Wire.duration, Duration.parse?_lease] at accepted
  split at accepted
  · cases accepted
  · rw [← Except.ok.inj accepted]
    exact lease.ofSeconds_leaseSeconds_ne_zero

/-! ## The requests of a client -/

variable {index : String} {ix : Index} {body : Bytes}

theorem readBody_of_parse? {α : Type} {read : Reader α} {a : α}
    (h : Wire.parse? read body = some a) : readBody read body = .ok a := by
  rw [readBody, h]

/-- An empty body is no message. -/
theorem ne_nil_of_parse? {α : Type} {read : Reader α} {a : α}
    (h : Wire.parse? read body = some a) : body ≠ [] := by
  rintro rfl
  have empty : Wire.parse? read [] = none := rfl
  rw [empty] at h
  simp at h

theorem ofSegments?_search (named : index ≠ "") :
    Route.ofSegments? "POST" ([index, "_search"].filter (· ≠ "")) = some (.search index) := by
  simp [named, Route.ofSegments?, Route.ofPair?]

/-- The hits of a search whose size and query are accepted. -/
theorem hits_of_query (here : s.store.index index = .ok ix) {b : Wire.SearchBody} {q : Query}
    (valid : Query.parse b.query = .ok q) (small : b.size ≤ s.store.config.maxPage) :
    s.hits index b = .ok ((ix.select q).map (Store.hit index b.versions)) := by
  rw [Server.hits, if_neg (by simpa using small)]
  simp only [query, valid, Except.mapError, Store.search, here, bind, Except.bind, pure,
    Except.pure]

/-- A search that goes on is answered by its first page if its lease is accepted, and its scroll is
opened. -/
theorem handle_search (named : index ≠ "") (here : s.store.index index = .ok ix)
    {b : Wire.SearchBody} (read : Wire.parse? Wire.SearchBody.read body = some b) {q : Query}
    (valid : Query.parse b.query = .ok q) (positive : b.size ≠ 0)
    (small : b.size ≤ s.store.config.maxPage) (word : String) :
    s.handle ⟨"POST", String.ofList (Target.pathOf [index, "_search"] ++
        '?' :: Target.queryOf [("scroll", word)]), body⟩ =
      match s.lease word with
      | .error e => (.ofError e, s)
      | .ok lease =>
        let opened := s.scrolls.start ((ix.select q).map (Store.hit index b.versions))
          b.size.toNat lease
        (.ofText 200 opened.1.toText, { s with scrolls := opened.2 }) := by
  have param : Table.find? (.ofList [("scroll", word)]) "scroll" = some word := by
    simp [Table.ofList]
  rw [handle, answer]
  simp only [Target.parse_pathOf_queryOf _ (show [("scroll", word)] ≠ [] by simp),
    ofSegments?_search named, run, search, searchBody, if_neg (ne_nil_of_parse? read),
    readBody_of_parse? read, s.hits_of_query here valid small, param, scrollLease, if_neg positive]
  cases s.lease word <;> rfl

/-- A request for the next page takes it from its scroll if its lease is accepted. -/
theorem handle_advance {b : Wire.ScrollBody}
    (read : Wire.parse? Wire.ScrollBody.read body = some b) :
    s.handle ⟨"POST", String.ofList (Target.pathOf ["_search", "scroll"]), body⟩ =
      match s.lease b.lease with
      | .error e => (.ofError e, s)
      | .ok lease =>
        let next := s.scrolls.advance b.handle lease
        (match next.1 with
          | .error e => .ofError e
          | .ok page => .ofText 200 page.toText,
          { s with scrolls := next.2 }) := by
  have route : Route.ofSegments? "POST" (["_search", "scroll"].filter (· ≠ "")) =
      some .advance := by decide
  rw [handle, answer]
  simp only [Target.parse_pathOf, route, run, advance, readBody_of_parse? read]
  cases s.lease b.lease with
  | error e => rfl
  | ok lease =>
    dsimp only
    cases (s.scrolls.advance b.handle lease).1 <;> rfl

/-- A request to release scrolls is carried out, or there was nothing to release. -/
theorem handle_clear {b : Wire.ClearBody} (read : Wire.parse? Wire.ClearBody.read body = some b) :
    ∃ reply : Reply, (reply.status = 404 ∨ reply.isSuccess) ∧
      s.handle ⟨"DELETE", String.ofList (Target.pathOf ["_search", "scroll"]), body⟩ =
        (reply, { s with scrolls := (s.scrolls.clear b.handles).2 }) := by
  have route : Route.ofSegments? "DELETE" (["_search", "scroll"].filter (· ≠ "")) =
      some .clear := by decide
  rw [handle, answer]
  simp only [Target.parse_pathOf, route, run, clear, readBody_of_parse? read]
  refine ⟨_, ?_, rfl⟩
  split
  · exact .inl rfl
  · exact .inr rfl

end Server

end VersionedStore
