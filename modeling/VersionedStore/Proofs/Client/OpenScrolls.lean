import VersionedStore.Proofs.Client.Documents
import VersionedStore.Proofs.Client.Snapshot
import VersionedStore.Proofs.Client.Transparency
import VersionedStore.Proofs.Server.Handles
import VersionedStore.Proofs.Server.Shown

/-!
# Scrolls that are left open

A search for documents at the server opens at most one scroll. As long as its pages are read the
scroll stays open, and it is gone when the cursor has come to its end. So nothing is left behind,
unless the search ends early because a document cannot be decoded.

## Main definitions

* `Cursor.Behind` — a cursor and the scroll behind it, among others

## Main results

* `Loopback.search_cases` — a search opens a scroll only if all of it is in order
* `Cursor.Behind.next` — what one hit preserves
* `Repository.documentsUnder_behind` — what the reading of the hits does to the scroll
* `Repository.searchDocuments_cleansUp` — what a search for documents leaves behind
-/

namespace VersionedStore

open Json

/-! ## The opening of a scroll -/

/-- A search that is refused leaves the server as it is; otherwise all that it asks for is in
order. -/
theorem Server.search_cases (s : Server) (index : String) (params : Params) {body : Bytes}
    {b : Wire.SearchBody} (read : Server.searchBody body = .ok b) :
    (∃ e, s.search index params body = (.error e, s)) ∨
      ∃ ix q, s.store.index index = .ok ix ∧ Query.parse b.query = .ok q ∧
        b.size ≤ s.store.config.maxPage ∧
        ((params.find? "scroll" = none ∧ s.search index params body =
            (.ok (.ofText 200 (Wire.SearchReply.toText ⟨none, 0,
              .exact (UInt64.ofNat (ix.select q).length),
              ((ix.select q).map (Store.hit index b.versions)).take b.size.toNat⟩)), s)) ∨
          ∃ word d, params.find? "scroll" = some word ∧ b.size ≠ 0 ∧ s.lease word = .ok d) := by
  unfold search
  simp only [read]
  by_cases large : s.store.config.maxPage < b.size
  · have refused : s.hits index b = .error
        (.request (.pageTooLarge b.size.toNat s.store.config.maxPage.toNat)) := by
      rw [hits, if_pos large]
      rfl
    rw [refused]
    exact .inl ⟨_, rfl⟩
  have small : b.size ≤ s.store.config.maxPage := UInt32.not_lt.1 large
  have asked : s.hits index b =
      (do s.store.search index (← query b.query) b.versions) := by
    rw [hits, if_neg large]
  rw [asked]
  cases parsed : Query.parse b.query with
  | error fault =>
    simp only [query, parsed, Except.mapError, bind, Except.bind]
    exact .inl ⟨_, rfl⟩
  | ok q =>
    cases here : s.store.index index with
    | error e =>
      simp only [query, parsed, Except.mapError, bind, Except.bind, Store.search, here]
      exact .inl ⟨_, rfl⟩
    | ok ix =>
      simp only [query, parsed, Except.mapError, bind, Except.bind, Store.search, here, pure,
        Except.pure]
      cases param : params.find? "scroll" with
      | none =>
        refine .inr ⟨ix, q, rfl, rfl, small, .inl ⟨rfl, ?_⟩⟩
        simp only [List.length_map]
      | some word =>
        simp only [scrollLease]
        by_cases empty : b.size = 0
        · simp only [if_pos empty]
          exact .inl ⟨_, rfl⟩
        · simp only [if_neg empty]
          cases leased : s.lease word with
          | error e => exact .inl ⟨_, rfl⟩
          | ok d => exact .inr ⟨ix, q, rfl, rfl, small, .inr ⟨word, d, rfl, empty, leased⟩⟩

/-- A search reaches the index of a name; without one there is no such request. -/
theorem Server.answer_search_cases (s : Server) {index path : String} {params : Params}
    {r : Request} (method : r.method = "POST")
    (parsed : Target.parse r.target = ⟨path, [index, "_search"].filter (· ≠ ""), params⟩) :
    (index ≠ "" ∧ s.answer r = s.search index params r.body) ∨ ∃ e, s.answer r = (.error e, s) := by
  rw [answer, parsed, method]
  by_cases named : index = ""
  · subst named
    exact .inr ⟨_, rfl⟩
  · have route : Route.ofSegments? "POST" ([index, "_search"].filter (· ≠ "")) =
        some (.search index) := by
      simp [named, Route.ofSegments?, Route.ofPair?]
    exact .inl ⟨named, by simp only [route, run]⟩

namespace Loopback

variable {config : HttpConfig} (bare : Bare config.base) (s : Http.Connection Server)

include bare

/-- A search is one request with the lease as its parameter. -/
theorem search_request (index : String) (b : Wire.SearchBody) (lease : Option Duration) :
    ∃ (r : Request) (path : String) (params : Params), r.method = "POST" ∧
      Target.parse r.target = ⟨path, [index, "_search"].filter (· ≠ ""), params⟩ ∧
      r.body = b.toText.write ∧ params.find? "scroll" = lease.map Duration.lease ∧
      transport config (.search index b lease) s =
        (Http.page (s.client.handle r).1, ⟨(s.client.handle r).2, none⟩) := by
  cases lease with
  | none =>
    refine ⟨⟨"POST", String.ofList (Target.pathOf [index, "_search"]), b.toText.write⟩, _, _, rfl,
      Target.parse_pathOf _, rfl, rfl, ?_⟩
    rw [transport_of_draft bare (Http.draft_plainSearch index b) rfl, Option.getD_some]
    simp only [Http.answer]
  | some l =>
    refine ⟨⟨"POST", String.ofList (Target.pathOf [index, "_search"] ++
        '?' :: Target.queryOf [("scroll", l.lease)]), b.toText.write⟩, _, _, rfl,
      Target.parse_pathOf_queryOf _ (List.cons_ne_nil _ _), rfl, ?_, ?_⟩
    · simp [Table.ofList]
    · rw [transport_of_draft bare (Http.draft_search index b l) rfl, Option.getD_some]
      simp only [Http.answer]

/-- A search opens a scroll only if it goes on and all that it asks for is in order. Otherwise no
scroll is touched, and no handle is told. -/
theorem search_cases (sent : s.client.store.Sent) {index : String} {query : Option Value}
    (proper : ∀ v ∈ query, v.Proper ∧ v.depth ≤ 126)
    (documents : ∀ id d, (s.client.store.indexOrEmpty index).published.find? id = some d →
      d.source.depth ≤ 123) (size : UInt32) (lease : Option Duration) :
    let searched := transport config (.search index (.ofQuery query size) lease) s
    (searched.2.client.scrolls = s.client.scrolls ∧
        ∀ page, searched.1 = .ok page → page.handle = none) ∨
      ∃ l d ix q, lease = some l ∧ index ≠ "" ∧ s.client.store.index index = .ok ix ∧
        Query.parse (query.map Value.reread) = .ok q ∧ 0 < size ∧
        size ≤ s.client.store.config.maxPage ∧ s.client.lease l.lease = .ok d := by
  have parsed := Wire.SearchBody.parse?_toText (.ofQuery query size) proper
  have read : Server.searchBody (Wire.SearchBody.ofQuery query size).toText.write =
      .ok ⟨Wire.arrived query, size, true⟩ := by
    rw [Server.searchBody, if_neg (Server.ne_nil_of_parse? parsed),
      Server.readBody_of_parse? parsed]
    rfl
  obtain ⟨r, path, params, method, target, body, param, reply⟩ :=
    search_request bare s index (.ofQuery query size) lease
  rw [← body] at read
  simp only [reply]
  -- A refusal is no page, and it leaves the server as it is.
  have refused {e : StoreError} (answered : s.client.answer r = (.error e, s.client)) :
      (s.client.handle r).2.scrolls = s.client.scrolls ∧
        ∀ page, Http.page (s.client.handle r).1 = .ok page → page.handle = none := by
    rw [Server.handle, answered]
    refine ⟨rfl, fun page told => ?_⟩
    rw [Http.page, Http.decode_ofError] at told
    cases told
  obtain ⟨named, answered⟩ | ⟨e, answered⟩ := s.client.answer_search_cases method target
  · obtain ⟨e, failed⟩ | ⟨ix, q, here, valid, small, ⟨-, found⟩ | ⟨word, d, goesOn, full, leased⟩⟩ :=
      s.client.search_cases index params read
    · exact .inl (refused (answered.trans failed))
    · left
      rw [Server.handle, answered, found]
      refine ⟨rfl, fun page told => ?_⟩
      have travels := sent.travels here (ix.finds_select q) fun id d found =>
        documents id d (by rwa [Store.indexOrEmpty_of_index here])
      rw [← List.map_take, Http.page_hits index none _ fun e he => travels e (List.mem_of_mem_take he)]
        at told
      rw [← Except.ok.inj told]
    · right
      rw [goesOn] at param
      obtain ⟨l, asked, rfl⟩ := Option.map_eq_some_iff.1 param.symm
      rw [Query.parse_arrived] at valid
      exact ⟨l, d, ix, q, asked, named, here, valid, UInt32.pos_iff_ne_zero.2 full, small, leased⟩
  · exact .inl (refused answered)

end Loopback

/-! ## The scroll behind a cursor -/

namespace Cursor

/-- A cursor has an open scroll behind it, and beside that all scrolls are as they were. -/
structure Behind (c : Cursor) (s : Server) (before : Scrolls) (index handle : String) (d : Duration) :
    Prop where
  named : c.handle = some handle
  unfinished : c.isExhausted = false
  leased : s.lease c.lease.lease = .ok d
  holds : ∃ (later : List (String × Document)) (total : Wire.Total) (pageSize : Nat),
    s.scrolls.Holds handle (later.map (Store.hit index true)) total pageSize ∧
      ∀ e ∈ later, e.2.Travels
  beside : Scrolls.Beside handle before s.scrolls

namespace Behind

variable {c : Cursor} {s : Http.Connection Server} {before : Scrolls} {index handle : String}
  {d : Duration} {config : HttpConfig} (bare : Loopback.Bare config.base)

/-- A cursor with a page at hand has a scroll behind it if it had one when it asked for the page. -/
theorem load (h : c.Behind s.client before index handle d) {p : Wire.Page}
    (told : p.handle = some handle) : (c.load p).Behind s.client before index handle d where
  named := by rw [Cursor.load, told]; rfl
  unfinished := h.unfinished
  leased := h.leased
  holds := h.holds
  beside := h.beside

theorem pop (h : c.Behind s.client before index handle d) (rest : List Wire.Hit) :
    (c.pop rest).Behind s.client before index handle d :=
  ⟨h.named, h.unfinished, h.leased, h.holds, h.beside⟩

/-- The scroll behind a cursor is open. -/
theorem with_ (h : c.Behind s.client before index handle d) :
    Scrolls.With handle before s.client.scrolls := by
  obtain ⟨later, total, pageSize, holds, -⟩ := h.holds
  refine ⟨h.beside, ?_⟩
  rw [show s.client.scrolls.purge.contexts.find? handle = _ from holds.purge]
  exact Option.some_ne_none _

include bare

/-- To finish the cursor is to release the scroll. -/
theorem finish (h : c.Behind s.client before index handle d) :
    let t := Loopback.transport config
    Exchange.releases (c.finish.exchanges t s) = [handle] ∧
      Scrolls.Without handle before (c.finish.run t s).2.client.scrolls := by
  intro t
  have released := Loopback.transport_release bare s handle
  simp only [Cursor.finish, release, h.named, Program.bind, Program.exchanges, Program.run, t,
    released]
  refine ⟨rfl, fun other => ?_⟩
  rw [Scrolls.find?_clear]
  split
  · rfl
  · next elsewhere => exact h.beside other elsewhere

/-- The next page comes out of the scroll. -/
theorem advance (some_time : d ≠ .zero) (h : c.Behind s.client before index handle d) :
    ∃ p s', Loopback.transport config (.advance handle c.lease) s = (.ok p, s') ∧
      p.handle = some handle ∧ c.Behind s'.client before index handle d := by
  obtain ⟨later, total, pageSize, holds, travels⟩ := h.holds
  refine ⟨_, _, Loopback.transport_advance bare s holds h.leased some_time travels, rfl, ?_⟩
  refine ⟨h.named, h.unfinished, ?_, ⟨later.drop pageSize, total, pageSize, ?_, ?_⟩, ?_⟩
  · exact (Server.lease_eq rfl _).trans h.leased
  · rw [List.map_drop]
    exact (holds.advance some_time).2
  · exact fun e he => travels e (List.mem_of_mem_drop he)
  · intro other elsewhere
    exact (Scrolls.beside_advance _ handle d other elsewhere).trans (h.beside other elsewhere)

/-- What is handed out of a page: a hit, with the scroll still there, or the end, with the scroll
released. -/
theorem nextOfPage (h : c.Behind s.client before index handle d) :
    let t := Loopback.transport config
    let step := c.nextOfPage.run t s
    (∃ hit, step.1.1 = some (.ok hit) ∧ Exchange.releases (c.nextOfPage.exchanges t s) = [] ∧
        step.1.2.Behind step.2.client before index handle d) ∨
      step.1.1 = none ∧ Exchange.releases (c.nextOfPage.exchanges t s) = [handle] ∧
        Scrolls.Without handle before step.2.client.scrolls := by
  intro t step
  simp only [step, Cursor.nextOfPage]
  cases c.hits with
  | cons hit rest => exact .inl ⟨hit, rfl, rfl, h.pop rest⟩
  | nil =>
    right
    simp only [Program.run_bind, Program.exchanges_bind, Program.run, Program.exchanges,
      List.append_nil]
    exact ⟨trivial, h.finish bare⟩

/-- What the next hit preserves: there is one, with the scroll still there, or it is the end, with
the scroll released. -/
theorem next (some_time : d ≠ .zero) (h : c.Behind s.client before index handle d) :
    let t := Loopback.transport config
    let step := c.next.run t s
    (∃ hit, step.1.1 = some (.ok hit) ∧ Exchange.releases (c.next.exchanges t s) = [] ∧
        step.1.2.Behind step.2.client before index handle d) ∨
      step.1.1 = none ∧ Exchange.releases (c.next.exchanges t s) = [handle] ∧
        Scrolls.Without handle before step.2.client.scrolls := by
  intro t step
  simp only [step, Cursor.next]
  cases c.hits with
  | cons hit rest => exact .inl ⟨hit, rfl, rfl, h.pop rest⟩
  | nil =>
    simp only [h.unfinished, Bool.false_eq_true, ↓reduceIte, advanceHandle?, h.named]
    cases c.goesOn with
    | false =>
      right
      simp only [Bool.false_eq_true, ↓reduceIte, Program.run_bind, Program.exchanges_bind,
        Program.run, Program.exchanges, List.append_nil]
      exact ⟨trivial, h.finish bare⟩
    | true =>
      obtain ⟨p, s', reply, told, behind⟩ := h.advance bare some_time
      simp only [↓reduceIte, Program.run, Program.exchanges, t, reply]
      exact (behind.load told).nextOfPage bare

end Behind

end Cursor

/-! ## What is left -/

namespace Repository

variable {α σ : Type} {r : Repository α} {n : Nat}

/-- A cursor without a handle makes no calls. -/
theorem documentsUnder_idle (r : Repository α) (n : Nat) {c : Cursor} (unnamed : c.handle = none)
    (t : Transport σ) (s : σ) :
    (r.documentsUnder n c).exchanges t s = [] ∧ ((r.documentsUnder n c).run t s).2 = s := by
  induction n generalizing c with
  | zero => exact ⟨rfl, rfl⟩
  | succ n ih =>
    have finished : c.finish = .done c.exhaust := by
      rw [Cursor.finish, Cursor.release, unnamed]
      rfl
    have noMore : c.advanceHandle? = none := by
      rw [Cursor.advanceHandle?, unnamed, ite_self]
    rw [documentsUnder, Cursor.next]
    cases c.hits with
    | nil =>
      cases c.isExhausted with
      | true => exact ⟨rfl, rfl⟩
      | false =>
        simp only [Bool.false_eq_true, ↓reduceIte, noMore, finished]
        exact ⟨rfl, rfl⟩
    | cons hit rest =>
      simp only [Program.bind]
      cases r.decodeHit (.ok hit) with
      | error e => exact ⟨rfl, rfl⟩
      | ok found =>
        simp only [Program.exchanges_bind, Program.run_bind, Program.exchanges, Program.run,
          List.append_nil]
        exact ih (c := c.pop rest) unnamed

/-- Where a scroll is behind the cursor, it is still there after the reading of the hits, or it was
released. -/
theorem documentsUnder_behind (r : Repository α) (n : Nat) {c : Cursor} {s : Http.Connection Server}
    {before : Scrolls} {index handle : String} {d : Duration} {config : HttpConfig}
    (bare : Loopback.Bare config.base) (some_time : d ≠ .zero)
    (h : c.Behind s.client before index handle d) :
    let t := Loopback.transport config
    (Exchange.releases ((r.documentsUnder n c).exchanges t s) = [] ∧
        Scrolls.With handle before ((r.documentsUnder n c).run t s).2.client.scrolls) ∨
      Exchange.releases ((r.documentsUnder n c).exchanges t s) = [handle] ∧
        Scrolls.Without handle before ((r.documentsUnder n c).run t s).2.client.scrolls := by
  intro t
  induction n generalizing c s with
  | zero => exact .inl ⟨rfl, h.with_⟩
  | succ n ih =>
    have step := h.next bare some_time
    rw [documentsUnder, Program.exchanges_bind, Program.run_bind, Exchange.releases_append]
    dsimp only [t] at ih step ⊢
    generalize c.next.run (Loopback.transport config) s = stepped at step ⊢
    obtain ⟨⟨answer, c'⟩, s'⟩ := stepped
    obtain ⟨hit, rfl, kept, behind⟩ | ⟨rfl, released, without⟩ := step
    · rw [kept, List.nil_append]
      dsimp only
      cases r.decodeHit (.ok hit) with
      | error e => exact .inl ⟨rfl, behind.with_⟩
      | ok found =>
        simp only [Program.exchanges_bind, Program.run_bind, Program.exchanges, Program.run,
          List.append_nil]
        exact ih behind
    · right
      rw [released]
      exact ⟨rfl, without⟩

/-- At the server a search for documents leaves one more scroll open if it was given a handle and
releases none. -/
theorem openCount_searchDocuments (r : Repository α) (n : Nat) {s : Http.Connection Server}
    {config : HttpConfig} (bare : Loopback.Bare config.base) (sent : s.client.store.Sent)
    (numbered : s.client.scrolls.Numbered) {query : Option Value}
    (proper : ∀ v ∈ query, v.Proper ∧ v.depth ≤ 126)
    (documents : ∀ id d, (s.client.store.indexOrEmpty r.config.readTarget).published.find? id =
      some d → d.source.depth ≤ 123) (o : SearchOptions) :
    let t := Loopback.transport config
    let x := (r.searchDocuments n query o).exchanges t s
    ((r.searchDocuments n query o).run t s).2.client.scrolls.openCount =
      s.client.scrolls.openCount +
        if Exchange.handles x ≠ [] ∧ Exchange.releases x = [] then 1 else 0 := by
  intro t x
  have new := numbered.purge.fresh
  obtain ⟨same, unnamed⟩ | ⟨l, d, ix, q, leased, named, here, valid, positive, small, accepted⟩ :=
    Loopback.search_cases bare s sent proper documents o.pageSize o.lease
  · -- Without a handle nothing is asked for after the search.
    have left : Exchange.handles x = [] ∧ ((r.searchDocuments n query o).run t s).2.client.scrolls =
        s.client.scrolls := by
      obtain ⟨e, -, -, calls, result⟩ | ⟨first, told, -, calls, result⟩ :=
        r.searchDocuments_cases n query o t s
      · rw [show x = _ from calls, result]
        exact ⟨rfl, same⟩
      · have idle := r.documentsUnder_idle n (c := .start first o.cursorLease)
          (by simp [Cursor.start, Cursor.load, unnamed first told]) t
        rw [show x = _ from calls, (idle _).1, Exchange.handles_search, unnamed first told, result,
          (idle _).2]
        exact ⟨rfl, same⟩
    rw [if_neg fun h => h.1 left.1, left.2, Nat.add_zero]
  · have travels := sent.travels here (ix.finds_select q) fun id d found =>
      documents id d (by rwa [Store.indexOrEmpty_of_index here])
    obtain ⟨cursor, opened, searched, -, lease, follows, leased', beside⟩ :=
      r.search_follows bare s named here proper valid travels leased accepted positive small
    have behind : cursor.Behind opened.client s.client.scrolls r.config.readTarget
        s.client.scrolls.named.next d :=
      ⟨follows.named, follows.unfinished, lease ▸ leased',
        ⟨_, _, _, follows.holds, follows.travels⟩, beside⟩
    obtain ⟨e, -, failed, -, -⟩ | ⟨first, -, begun, calls, result⟩ :=
      r.searchDocuments_cases n query o t s
    · cases failed.symm.trans searched
    obtain ⟨start, state⟩ := Prod.mk.inj (begun.symm.trans searched)
    obtain rfl := Except.ok.inj start
    have left := r.documentsUnder_behind n bare (Server.ne_zero_of_lease accepted) behind
    have handles : Exchange.handles x ≠ [] := by
      have told : first.handle.or none = some _ := follows.named
      rw [Option.or_none] at told
      rw [show x = _ from calls, Exchange.handles_search, told]
      exact List.cons_ne_nil _ _
    have releases : Exchange.releases x =
        Exchange.releases ((r.documentsUnder n (.start first o.cursorLease)).exchanges t opened) := by
      rw [show x = _ from calls, state]
      rfl
    rw [result, state]
    obtain ⟨kept, open_⟩ | ⟨released, without⟩ := left
    · rw [if_pos ⟨handles, releases.trans kept⟩]
      exact Scrolls.openCount_of_with open_ new
    · rw [if_neg fun h => List.cons_ne_nil _ _ (released.symm.trans (releases.symm.trans h.2))]
      exact Scrolls.openCount_of_without without new

/-- A search for documents that has come to its end would have read no more if it might. Against any
transport it has released the last handle that it was given, once, unless one of the hits cannot be
decoded: then it ends with the failure of the first of them, and releases nothing. So at a server as
many scrolls are open as before, or one more if it was given a handle and a hit cannot be decoded.

The bound on the documents is for a second leak: a page with a document of 124 to 127 levels cannot
be read by the client. If that is the first page, the handle in it is lost although a scroll was
opened, so nothing can release it. -/
theorem searchDocuments_cleansUp (r : Repository α) (n : Nat) (query : Option Value)
    (o : SearchOptions) :
    (∀ (σ : Type) (t : Transport σ) (s : σ),
      let x := (r.searchDocuments n query o).exchanges t s
      let result := ((r.searchDocuments n query o).run t s).1
      Ends n result →
        (∀ m ≥ n, (r.searchDocuments m query o).run t s = (r.searchDocuments n query o).run t s ∧
          (r.searchDocuments m query o).exchanges t s = x) ∧
        (((Exchange.hits x).findSome? r.unreadable? = none ∧
            Exchange.releases x = (Exchange.handles x).getLast?.toList) ∨
          ∃ e, (Exchange.hits x).findSome? r.unreadable? = some e ∧ Exchange.releases x = [] ∧
            result = .error e)) ∧
      ∀ (config : HttpConfig) (s : Http.Connection Server), Loopback.Bare config.base →
        s.client.store.Sent → s.client.scrolls.Numbered →
        (∀ v ∈ query, v.Proper ∧ v.depth ≤ 120) →
        (∀ id d, (s.client.store.indexOrEmpty r.config.readTarget).published.find? id = some d →
          d.source.depth ≤ 120) →
        let t := Loopback.transport config
        let x := (r.searchDocuments n query o).exchanges t s
        Ends n ((r.searchDocuments n query o).run t s).1 →
          ((r.searchDocuments n query o).run t s).2.client.scrolls.openCount =
            s.client.scrolls.openCount +
              if Exchange.handles x ≠ [] ∧ ((Exchange.hits x).findSome? r.unreadable?).isSome
              then 1 else 0 := by
  constructor
  · intro σ t s x result ends
    exact ⟨fun m more => r.searchDocuments_of_ends more query o t s ends,
      r.releases_searchDocuments query o t s ends⟩
  · intro config s bare sent numbered proper documents t x ends
    have count := r.openCount_searchDocuments n bare sent numbered
      (fun v hv => ⟨(proper v hv).1, (proper v hv).2.trans (by decide)⟩)
      (fun id d found => (documents id d found).trans (by decide)) o
    -- With a handle, nothing is released exactly if a hit cannot be decoded.
    have same : (Exchange.handles x ≠ [] ∧ Exchange.releases x = []) ↔
        Exchange.handles x ≠ [] ∧ ((Exchange.hits x).findSome? r.unreadable?).isSome := by
      refine and_congr_right fun told => ?_
      obtain ⟨readable, released⟩ | ⟨e, unreadable, kept, -⟩ :=
        r.releases_searchDocuments query o t s ends
      · rw [readable]
        refine iff_of_false (fun kept => ?_) Bool.false_ne_true
        rw [released, Option.toList_eq_nil_iff, List.getLast?_eq_none_iff] at kept
        exact told kept
      · rw [unreadable]
        exact iff_of_true kept rfl
    rw [count]
    by_cases left : Exchange.handles x ≠ [] ∧ Exchange.releases x = []
    · rw [if_pos left, if_pos (same.1 left)]
    · rw [if_neg left, if_neg (left ∘ same.2)]

/-- A server with a note and, behind it, a document that is none. -/
def blotted : Server :=
  (Server.empty {}).after [⟨"PUT", "/b/_doc/c", Utf8.encode "\x7b\"title\":\"d\"\x7d"⟩,
    ⟨"PUT", "/b/_doc/e?refresh=true", Utf8.encode "\x7b\x7d"⟩]

/-- The search for the notes of that server. -/
def blottedNotes : Program (Except ClientError (List Note)) :=
  (notesOf "b").searchDocuments 3 none (.scrolling 1)

private theorem blottedNotes_fails :
    (blottedNotes.run (Loopback.transport nearby) ⟨blotted, none⟩).1 = .error (.codec faultText) := by
  decide +kernel

/-- The search for the notes fails at the second page, so it leaves its scroll open. -/
theorem searchDocuments_cleansUp_blotted :
    (Loopback.Bare nearby.base ∧ blotted.store.Sent ∧ blotted.scrolls.Numbered ∧
      Ends 3 (blottedNotes.run (Loopback.transport nearby) ⟨blotted, none⟩).1) ∧
      Exchange.releases (blottedNotes.exchanges (Loopback.transport nearby) ⟨blotted, none⟩) = [] ∧
      (blottedNotes.run (Loopback.transport nearby) ⟨blotted, none⟩).2.client.scrolls.openCount =
        blotted.scrolls.openCount + 1 := by
  have bare : Loopback.Bare nearby.base := ⟨"a".toList, by decide +kernel, by decide⟩
  have sent : blotted.store.Sent := ((Server.faithful_empty {}).after _).store
  have numbered : blotted.scrolls.Numbered := Server.numbered_after (Scrolls.numbered_empty _) _
  have ends : Ends 3 (blottedNotes.run (Loopback.transport nearby) ⟨blotted, none⟩).1 := by
    intro documents read
    cases blottedNotes_fails.symm.trans read
  have everything : ∀ v ∈ (none : Option Value), v.Proper ∧ v.depth ≤ 120 :=
    fun v none => absurd none (Option.not_mem_none v)
  have shallow : ∀ id d, (blotted.store.indexOrEmpty "b").published.find? id = some d →
      d.source.depth ≤ 120 := by
    have all : ∀ e ∈ (blotted.store.indexOrEmpty "b").published.toList, e.2.source.depth ≤ 120 := by
      decide +kernel
    intro id d found
    exact all _ (Table.mem_toList_iff.2 found)
  obtain ⟨any, atServer⟩ := searchDocuments_cleansUp (notesOf "b") 3 none (.scrolling 1)
  have unreadable : ((Exchange.hits (blottedNotes.exchanges (Loopback.transport nearby)
      ⟨blotted, none⟩)).findSome? (notesOf "b").unreadable?).isSome := by decide +kernel
  have told : Exchange.handles (blottedNotes.exchanges (Loopback.transport nearby)
      ⟨blotted, none⟩) ≠ [] := by decide +kernel
  refine ⟨⟨bare, sent, numbered, ends⟩, ?_, ?_⟩
  · obtain ⟨-, ⟨readable, -⟩ | ⟨e, -, kept, -⟩⟩ := any _ (Loopback.transport nearby) ⟨blotted, none⟩ ends
    · rw [blottedNotes, readable] at unreadable
      cases unreadable
    · exact kept
  · have count := atServer nearby ⟨blotted, none⟩ bare sent numbered everything shallow ends
    rw [if_pos ⟨told, unreadable⟩] at count
    exact count

/-- The search gets a handle, fails at the second page, and leaves its scroll open. -/
theorem searchDocuments_leaks :
    let left := blottedNotes.run (Loopback.transport nearby) ⟨blotted, none⟩
    let x := blottedNotes.exchanges (Loopback.transport nearby) ⟨blotted, none⟩
    left.1 = .error (.codec faultText) ∧ Exchange.handles x ≠ [] ∧ Exchange.releases x = [] ∧
      blotted.scrolls.openCount = 0 ∧ left.2.client.scrolls.openCount = 1 := by
  decide +kernel

end Repository

end VersionedStore
