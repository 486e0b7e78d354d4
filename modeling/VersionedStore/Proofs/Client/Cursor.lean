import VersionedStore.Client.Cursor
import VersionedStore.Proofs.Client.Pages
import VersionedStore.Proofs.Client.Requests
import VersionedStore.Proofs.Store.Reach

/-!
# Draining a cursor

A cursor over a search that goes on asks for a page when the last one is used up, until a page is
empty, and releases its scroll then. The scroll was filled when the search was made, so nothing that
others do in between makes a difference to the hits.

## Main definitions

* `Loopback.amid` — a transport with requests of others between the calls
* `Cursor.Follows` — a cursor and the scroll behind it hold what is still to come

## Main results

* `Cursor.take_hits`, `Cursor.take_advance`, `Cursor.take_end` — the steps of a cursor
* `Cursor.collect_of_take` — collecting the hits is the same as taking them
* `Cursor.Follows.advance` — what one request for a page preserves
* `Cursor.Follows.drained` — what a cursor hands out and what it asks for, from any page on
-/

namespace VersionedStore

open Json

/-! ## Requests of others -/

/-- Calls that are answered by a server in the same program, where others have made requests of
their own before each call. -/
def Loopback.amid (config : HttpConfig) (others : Nat → List Request) :
    Transport (Nat × Http.Connection Server) := fun c s =>
  let r := transport config c ⟨s.2.client.after (others s.1), s.2.lastError⟩
  (r.1, s.1 + 1, r.2)

/-- Documents that were sent can be shown by pages. -/
theorem Store.Sent.travels {store : Store} (sent : store.Sent) {name : String} {ix : Index}
    (here : store.index name = .ok ix) {q : Query} {found : List (String × Document)}
    (finds : ix.Finds q found)
    (depth : ∀ id d, ix.published.find? id = some d → d.source.depth ≤ 123) :
    ∀ e ∈ found, e.2.Travels := by
  intro e he
  have published := ((finds.mem_iff e.1 e.2).1 he).1
  obtain ⟨proper, object⟩ := sent.proper (by rwa [Store.indexOrEmpty_of_index here])
  exact ⟨proper, depth _ _ published, object⟩

/-! ## Cursors -/

namespace Cursor

/-- The cursor after all hits at hand. -/
def popAll (c : Cursor) : Cursor := { c with hits := [], yielded := c.yielded + c.hits.length }

/-- The hits at hand are handed out first. -/
theorem take_hits (c : Cursor) (n : Nat) : c.take (c.hits.length + n) =
    (c.popAll.take n).bind fun rest => .done (c.hits.map .ok ++ rest.1, rest.2) := by
  obtain ⟨hits, handle, goesOn, isExhausted, total, pages, yielded, lease⟩ := c
  simp only [popAll]
  induction hits generalizing yielded with
  | nil =>
    rw [List.length_nil, Nat.zero_add, Nat.add_zero]
    exact (Program.bind_done _).symm
  | cons hit hits ih =>
    rw [List.length_cons, Nat.add_right_comm, take]
    simp only [next, pop, Program.bind]
    rw [ih (yielded + 1), Program.bind_assoc, Nat.add_right_comm, Nat.add_assoc]
    rfl

/-- A page that was just put into a cursor is looked at as if it had been there. -/
theorem next_load {c : Cursor} (h : c.isExhausted = false) (p : Wire.Page) :
    (c.load p).next = (c.load p).nextOfPage := by
  unfold next nextOfPage
  cases hits : p.hits with
  | cons hit rest => simp only [load, hits]
  | nil => simp [load, hits, h, advanceHandle?]

section Run

variable {σ : Type} {t : Transport σ} {s : σ} {c : Cursor} {handle : String}

/-- Without hits at hand the next page is asked for, and the cursor goes on with it. -/
theorem take_advance (used : c.hits = []) (unfinished : c.isExhausted = false)
    (open_ : c.advanceHandle? = some handle) {p : Wire.Page}
    (reply : (t (.advance handle c.lease) s).1 = .ok p) (n : Nat) :
    (c.take (n + 1)).run t s =
        ((c.load p).take (n + 1)).run t (t (.advance handle c.lease) s).2 ∧
      (c.take (n + 1)).calls t s = .advance handle c.lease ::
        ((c.load p).take (n + 1)).calls t (t (.advance handle c.lease) s).2 := by
  have asked : ∃ next, c.next = .call (.advance handle c.lease) next ∧
      next (.ok p) = (c.load p).nextOfPage := by
    unfold Cursor.next
    rw [used]
    simp only [unfinished, Bool.false_eq_true, ↓reduceIte, open_]
    exact ⟨_, rfl, rfl⟩
  obtain ⟨next, called, loaded⟩ := asked
  simp only [take, called, Program.bind, Program.run, Program.calls, reply, loaded,
    next_load unfinished]
  exact ⟨trivial, trivial⟩

/-- At the end the scroll is released. -/
theorem take_end (used : c.hits = []) (unfinished : c.isExhausted = false)
    (stopped : c.goesOn = false) (named : c.handle = some handle) (n : Nat) :
    c.take (n + 1) = .call (.release handle) fun _ => .done ([], c.exhaust) := by
  have noMore : c.advanceHandle? = none := by rw [advanceHandle?, stopped]; rfl
  have finished : c.next = .call (.release handle) fun _ => .done (none, c.exhaust) := by
    unfold next
    rw [used]
    simp only [unfinished, Bool.false_eq_true, ↓reduceIte, noMore, finish, release, named]
    rfl
  rw [take, finished]
  rfl

/-- Where nothing fails, collecting the hits is the same as taking them one by one. -/
theorem collect_of_take {n : Nat} {hits : List Wire.Hit}
    (h : ((c.take n).run t s).1.1 = hits.map .ok) :
    (c.collect n).run t s =
        ((.ok hits, ((c.take n).run t s).1.2), ((c.take n).run t s).2) ∧
      (c.collect n).calls t s = (c.take n).calls t s := by
  induction n generalizing c s hits with
  | zero =>
    rw [List.map_eq_nil_iff.1 (Eq.symm h)]
    exact ⟨rfl, rfl⟩
  | succ n ih =>
    rw [take, Program.run_bind] at h ⊢
    rw [collect, Program.run_bind, Program.calls_bind, Program.calls_bind]
    generalize c.next.run t s = step at h ⊢
    obtain ⟨⟨result, c'⟩, s'⟩ := step
    cases result with
    | none =>
      rw [List.map_eq_nil_iff.1 (Eq.symm h)]
      exact ⟨rfl, rfl⟩
    | some result =>
      simp only [Program.run_bind, Program.run] at h
      cases hits with
      | nil => simp at h
      | cons hit hits =>
        obtain ⟨rfl, rest⟩ := List.cons.inj h
        obtain ⟨run, calls⟩ := ih rest
        simp only [Program.run_bind, Program.run, Program.calls_bind, Program.calls_done, run,
          calls, Except.map, and_self]

end Run

/-- A cursor has some documents at hand, and the scroll behind it holds those that are to come. -/
structure Follows (c : Cursor) (s : Server) (index handle : String) (total : Wire.Total)
    (pageSize : Nat) (now later : List (String × Document)) : Prop where
  shown : c.hits = now.map .showing
  named : c.handle = some handle
  unfinished : c.isExhausted = false
  goesOn : c.goesOn = !now.isEmpty
  holds : s.scrolls.Holds handle (later.map (Store.hit index true)) total pageSize
  last : now = [] → later = []
  travels : ∀ e ∈ later, e.2.Travels

/-- The number of pages that are asked for when some documents are at hand and others are to come:
one for each full page to come, and one that is not full. -/
def pagesToCome (pageSize : Nat) (now later : List (String × Document)) : Nat :=
  if now = [] then 0 else 1 + (later.length + pageSize - 1) / pageSize

/-- When one page is at hand, as many are to come as there are pages begun. -/
theorem pagesToCome_split {pageSize : Nat} (positive : 0 < pageSize)
    (found : List (String × Document)) :
    pagesToCome pageSize (found.take pageSize) (found.drop pageSize) =
      (found.length + pageSize - 1) / pageSize := by
  rw [pagesToCome]
  split
  · next empty =>
    rw [(List.take_eq_nil_iff.1 empty).resolve_left positive.ne', List.length_nil]
    exact (Nat.div_eq_of_lt (by omega)).symm
  · next more =>
    have length : 0 < found.length :=
      List.length_pos_iff.2 fun h => more (List.take_eq_nil_iff.2 (.inr h))
    rw [List.length_drop]
    by_cases full : pageSize ≤ found.length
    · rw [show found.length + pageSize - 1 = found.length - pageSize + pageSize - 1 + pageSize by
        omega, Nat.add_div_right _ positive, Nat.add_comm]
    · rw [show found.length + pageSize - 1 = found.length - 1 + pageSize by omega,
        Nat.add_div_right _ positive, Nat.div_eq_of_lt (by omega), Nat.div_eq_of_lt (by omega)]

section Drained

variable {c : Cursor} {s : Http.Connection Server} {index handle : String} {total : Wire.Total}
  {pageSize : Nat} {now later : List (String × Document)} {config : HttpConfig}
  (bare : Loopback.Bare config.base) {others : Nat → List Request}
  (apart : ∀ k, ∀ r ∈ others k, r.Apart) {d : Duration}

include bare apart

/-- The next page comes out of the scroll, whatever others do before it. -/
theorem Follows.advance (some_time : d ≠ .zero) (positive : 0 < pageSize)
    (h : c.Follows s.client index handle total pageSize now later)
    (leased : s.client.lease c.lease.lease = .ok d) (k : Nat) :
    ∃ page s', Loopback.amid config others (.advance handle c.lease) (k, s) =
        (.ok page, k + 1, s') ∧
      (c.popAll.load page).Follows s'.client index handle total pageSize (later.take pageSize)
        (later.drop pageSize) ∧
      s'.client.lease c.lease.lease = .ok d ∧
      Scrolls.Beside handle s.client.scrolls s'.client.scrolls := by
  have scrolls := s.client.scrolls_after (apart k)
  have holds := h.holds
  rw [← scrolls] at holds
  have leased' : (s.client.after (others k)).lease c.lease.lease = .ok d := by
    rw [Server.lease_eq (s.client.reaches_after _).config, leased]
  have reply := Loopback.transport_advance bare
    ⟨s.client.after (others k), s.lastError⟩ holds leased' some_time h.travels
  refine ⟨_, _, by rw [Loopback.amid, reply], ?_, ?_, ?_⟩
  · refine ⟨rfl, rfl, h.unfinished, ?_, ?_, ?_, ?_⟩
    · simp only [load, List.isEmpty_map, Option.isSome_some, Bool.and_true]
    · rw [List.map_drop]
      exact (holds.advance some_time).2
    · intro empty
      rw [(List.take_eq_nil_iff.1 empty).resolve_left positive.ne', List.drop_nil]
    · exact fun e he => h.travels e (List.mem_of_mem_drop he)
  · rwa [Server.lease_eq rfl]
  · rw [← scrolls]
    exact Scrolls.beside_advance _ handle d

/-- At the end the scroll is released, whatever others do before it. -/
theorem amid_release (handle : String) (k : Nat) : ∃ s',
    Loopback.amid config others (.release handle) (k, s) = (.ok (), k + 1, s') ∧
    ∀ other, s'.client.scrolls.contexts.find? other =
      if other = handle then none else s.client.scrolls.purge.contexts.find? other := by
  refine ⟨_, by rw [Loopback.amid, Loopback.transport_release bare], fun other => ?_⟩
  simp only [s.client.scrolls_after (apart k), Scrolls.find?_clear]

/-- From any page on, a cursor hands out what is at hand and what is to come; it asks for the pages
to come, and it releases its scroll. -/
theorem Follows.drained (some_time : d ≠ .zero) (positive : 0 < pageSize)
    (h : c.Follows s.client index handle total pageSize now later)
    (leased : s.client.lease c.lease.lease = .ok d) (k extra : Nat) :
    let t := Loopback.amid config others
    let drained := c.take (now.length + later.length + extra + 1)
    (drained.run t (k, s)).1.1 = (now ++ later).map (.ok ∘ .showing) ∧
      drained.calls t (k, s) =
        List.replicate (pagesToCome pageSize now later) (.advance handle c.lease) ++
          [.release handle] ∧
      ∀ other, (drained.run t (k, s)).2.2.client.scrolls.contexts.find? other =
        if other = handle then none else s.client.scrolls.purge.contexts.find? other := by
  -- Every page that is not the last takes something off what is at hand and to come.
  induction sum : now.length + later.length using Nat.strong_induction_on
    generalizing c s now later k with
  | _ size ih =>
  intro t drained
  have atHand : now.length = c.hits.length := by rw [h.shown, List.length_map]
  have first : drained = (c.popAll.take (later.length + extra + 1)).bind fun rest =>
      .done (c.hits.map .ok ++ rest.1, rest.2) := by
    rw [← take_hits, ← atHand]
    simp only [drained, ← sum, Nat.add_assoc]
  rw [first, Program.run_bind, Program.calls_bind, Program.calls_done, List.append_nil, h.shown,
    List.map_map, List.map_append]
  simp only [Program.run]
  -- With nothing at hand the search is over; otherwise the next page is asked for, even if nothing
  -- is to come, as a page does not tell that it is the last one.
  by_cases empty : now = []
  · obtain rfl := h.last empty
    have last : c.popAll.goesOn = false := by rw [popAll, h.goesOn, empty]; rfl
    obtain ⟨s', released, left⟩ := amid_release bare apart (s := s) handle k
    rw [take_end (c := c.popAll) rfl h.unfinished last h.named]
    simp only [Program.run, Program.calls, t, released, empty, pagesToCome, ↓reduceIte]
    exact ⟨rfl, rfl, left⟩
  · have open_ : c.popAll.advanceHandle? = some handle := by
      simp [advanceHandle?, popAll, h.goesOn, empty, h.named]
    obtain ⟨page, s', reply, follows, leased', beside⟩ :=
      h.advance bare apart some_time positive leased k
    have answered : (t (.advance handle c.popAll.lease) (k, s)).1 = .ok page :=
      congrArg Prod.fst reply
    have after : (t (.advance handle c.popAll.lease) (k, s)).2 = (k + 1, s') :=
      congrArg Prod.snd reply
    obtain ⟨run, calls⟩ := take_advance (c := c.popAll) rfl h.unfinished open_ answered
      (later.length + extra)
    have split : (later.take pageSize).length + (later.drop pageSize).length = later.length := by
      rw [← List.length_append, List.take_append_drop]
    have fewer : later.length < size := by
      have := List.length_pos_iff.2 empty
      omega
    obtain ⟨results, asked, left⟩ := ih _ fewer follows leased' (k + 1) split
    have pages : pagesToCome pageSize now later =
        pagesToCome pageSize (later.take pageSize) (later.drop pageSize) + 1 := by
      rw [pagesToCome_split positive, pagesToCome, if_neg empty, Nat.add_comm]
    rw [run, calls, after, pages]
    refine ⟨by rw [results, List.take_append_drop], ?_, fun other => ?_⟩
    · rw [asked, List.replicate_succ]
      rfl
    · rw [left]
      split
      · rfl
      · next elsewhere => exact beside other elsewhere

end Drained

end Cursor

end VersionedStore
