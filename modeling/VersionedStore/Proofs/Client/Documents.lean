import Mathlib.Data.List.Basic
import VersionedStore.Client.Repository
import VersionedStore.Proofs.Client.CursorHistory

/-!
# Reading the documents of a search

A search for documents takes the hits of a cursor one by one and decodes them. It is one of the
callers of a cursor, so what it calls follows the rules of a cursor: when the cursor comes to its
end, the last handle is released. The search does not always go that far, as a hit that cannot be
decoded ends it before the cursor has come to its end.

## Main definitions

* `Exchange.page?`, `Exchange.release?` — what is received, and what is released
* `Repository.unreadable?` — why a hit cannot be decoded
* `Repository.Ends` — a search that came to its end by itself
* `Repository.Reads` — how the reading of the hits may go

## Main results

* `Repository.reads_under` — the reading of the hits under a cursor is a history of the cursor
* `Repository.releases_searchDocuments` — what a search releases, against any transport
* `Repository.searchDocuments_of_ends` — a search that has come to its end reads no more
-/

namespace VersionedStore

variable {α σ : Type}

/-! ## Calls and events -/

namespace Exchange

/-- The page that a search, or the request for the next page, is answered by. -/
def page? : Exchange → Option Wire.Page
  | ⟨.search .., .ok p⟩ => some p
  | ⟨.advance .., .ok p⟩ => some p
  | _ => none

/-- The handle that is released. -/
def release? : Exchange → Option String
  | ⟨.release handle, _⟩ => some handle
  | _ => none

/-- The pages that were received. -/
def pages (x : List Exchange) : List Wire.Page := x.filterMap page?

/-- The hits that were received. -/
def hits (x : List Exchange) : List Wire.Hit := (pages x).flatMap Wire.Page.hits

/-- The handles that were received. -/
def handles (x : List Exchange) : List String := (pages x).filterMap Wire.Page.handle

/-- The handles that were released. -/
def releases (x : List Exchange) : List String := x.filterMap release?

@[simp] theorem releases_append (x y : List Exchange) :
    releases (x ++ y) = releases x ++ releases y := List.filterMap_append

theorem handles_search (index : String) (b : Wire.SearchBody) (lease : Option Duration)
    (first : Wire.Page) (x : List Exchange) :
    handles (⟨.search index b lease, .ok first⟩ :: x) = first.handle.toList ++ handles x := by
  have page : page? ⟨.search index b lease, .ok first⟩ = some first := rfl
  rw [handles, pages, List.filterMap_cons_some page, List.filterMap_cons, ← pages, ← handles]
  cases first.handle <;> rfl

end Exchange

namespace Cursor

/-- The call among the things that are seen. -/
def Event.exchange? : Event → Option Exchange
  | called c reply => some ⟨c, reply⟩
  | _ => none

variable {first : Wire.Page} {lease : Duration} {h : List Event}

theorem releases_exchanges (h : List Event) :
    Exchange.releases (h.filterMap Event.exchange?) = h.filterMap Event.release? := by
  rw [Exchange.releases, List.filterMap_filterMap]
  congr 1
  funext e
  cases e with
  | called c reply => cases c <;> rfl
  | _ => rfl

/-- A cursor makes no searches, so its pages are those that it asks for. -/
theorem Lawful.pages_exchanges (lawful : Lawful first lease h) :
    Exchange.pages (h.filterMap Event.exchange?) = h.filterMap Event.page? := by
  rw [Exchange.pages, List.filterMap_filterMap]
  apply List.filterMap_congr
  intro e seen
  obtain ⟨past, later, split⟩ := List.append_of_mem seen
  have allowed := lawful.allowed past e later split
  cases e with
  | called c reply =>
    cases c with
    | advance => cases reply <;> rfl
    | release => rfl
    | _ => cases allowed
  | _ => rfl

/-- The hits and the handles of a search are those of its first page and of the pages that the cursor
asks for, and only the cursor releases handles. -/
theorem Lawful.searched (lawful : Lawful first lease h) {asked : Exchange}
    (page : Exchange.page? asked = some first) (noRelease : Exchange.release? asked = none) :
    let x := asked :: h.filterMap Event.exchange?
    Exchange.hits x = received first h ∧ (Exchange.handles x).getLast? = latestHandle? first h ∧
      Exchange.releases x = h.filterMap Event.release? := by
  intro x
  have pages : Exchange.pages x = pagesSeen first h := by
    rw [Exchange.pages, List.filterMap_cons_some page, ← Exchange.pages, lawful.pages_exchanges]
    rfl
  refine ⟨?_, ?_, ?_⟩
  · rw [Exchange.hits, pages, received]
  · rw [Exchange.handles, pages, latestHandle?]
  · rw [Exchange.releases, List.filterMap_cons_none noRelease, ← Exchange.releases,
      releases_exchanges]

/-- What is seen of a call. -/
def Event.ofExchange (e : Exchange) : Event := .called e.1 e.2

/-- When the next hit is asked for, some calls are seen, and then the answer. -/
theorem history_next (t : Transport σ) (k : Nat) (c : Cursor) (s : σ) :
    history t (List.replicate (k + 1) .next) c s =
      (c.next.exchanges t s).map Event.ofExchange ++ .handed (c.next.run t s).1.1 ::
        history t (List.replicate k .next) (c.next.run t s).1.2 (c.next.run t s).2 := by
  rw [List.replicate_succ, history, observe, Act.program, Program.exchanges_bind,
    Program.run_bind, List.append_assoc]
  simp only [Program.exchanges, Program.run, List.append_nil]
  rfl

section Step

variable (x : List Exchange) (answer : Option Result) (h : List Event)

theorem exchanges_step : (x.map Event.ofExchange ++ .handed answer :: h).filterMap Event.exchange? =
    x ++ h.filterMap Event.exchange? := by
  rw [List.filterMap_append, List.filterMap_map]
  congr 1
  exact List.filterMap_some

theorem handedOut_step : handedOut (x.map Event.ofExchange ++ .handed answer :: h) =
    (Event.handed answer).hit?.toList ++ handedOut h := by
  have calls : (x.map Event.ofExchange).filterMap Event.hit? = [] := by
    simp [Event.ofExchange, Event.hit?]
  rw [handedOut, List.filterMap_append, calls, List.nil_append, List.filterMap_cons, ← handedOut]
  cases (Event.handed answer).hit? <;> rfl

theorem ends_step : (x.map Event.ofExchange ++ .handed answer :: h).find? Event.ends =
    if (Event.handed answer).ends then some (.handed answer) else h.find? Event.ends := by
  have calls : (x.map Event.ofExchange).find? Event.ends = none := by
    simp [Event.ofExchange, Event.ends]
  rw [List.find?_append, calls, Option.none_or, List.find?_cons]
  cases (Event.handed answer).ends <;> rfl

end Step

end Cursor

/-! ## The reading of the hits -/

namespace Repository

open Cursor

variable (r : Repository α)

/-- Why a hit cannot be decoded, if it cannot. -/
def unreadable? (hit : Wire.Hit) : Option ClientError :=
  match r.codec.decode hit.source with
  | .error e => some e
  | .ok _ => none

/-- A search for at most a number of documents came to its end by itself: it has failed, or it has
found fewer of them. -/
def Ends (n : Nat) (result : Except ClientError (List α)) : Prop :=
  ∀ documents, result = .ok documents → documents.length < n

/-- How the reading of at most a number of documents may go: what is seen of the cursor, and the
result. -/
inductive Reads (n : Nat) (h : List Event) : Except ClientError (List α) → Prop
  /-- All the documents that were asked for are there. -/
  | full {documents : List α} : documents.length = n → Reads n h (.ok documents)
  /-- The search is over. -/
  | exhausted {documents : List α} : h.find? Event.ends = some (.handed none) →
      (handedOut h).map (r.codec.decode ·.source) = documents.map .ok → Reads n h (.ok documents)
  /-- There is no next page. -/
  | failed {e : ClientError} : h.find? Event.ends = some (.handed (some (.error e))) →
      (∀ hit ∈ handedOut h, r.unreadable? hit = none) → Reads n h (.error e)
  /-- A hit cannot be decoded. -/
  | unreadable {e : ClientError} {good : List Wire.Hit} {bad : Wire.Hit} :
      h.find? Event.ends = none → handedOut h = good ++ [bad] →
      (∀ hit ∈ good, r.unreadable? hit = none) → r.unreadable? bad = some e → Reads n h (.error e)

variable {r} {n : Nat} {h : List Event} {result : Except ClientError (List α)} {hit : Wire.Hit}
  {document : α}

theorem unreadable?_of_decode (decoded : r.codec.decode hit.source = .ok document) :
    r.unreadable? hit = none := by
  rw [unreadable?, decoded]

/-- Another hit comes first, and it can be decoded. -/
theorem Reads.cons (reads : r.Reads n h result) (x : List Exchange)
    (decoded : r.codec.decode hit.source = .ok document) :
    r.Reads (n + 1) (x.map Event.ofExchange ++ .handed (some (.ok hit)) :: h)
      (result.map (document :: ·)) := by
  have readable := unreadable?_of_decode decoded
  have hits : handedOut (x.map Event.ofExchange ++ .handed (some (.ok hit)) :: h) =
      hit :: handedOut h := handedOut_step x _ h
  have ends : (x.map Event.ofExchange ++ .handed (some (.ok hit)) :: h).find? Event.ends =
      h.find? Event.ends := ends_step x _ h
  cases reads with
  | full length => exact .full (congrArg (· + 1) length)
  | exhausted seen all =>
    refine .exhausted (ends.trans seen) ?_
    rw [hits, List.map_cons, List.map_cons, decoded, all]
  | failed seen all =>
    refine .failed (ends.trans seen) ?_
    rw [hits]
    exact List.forall_mem_cons.2 ⟨readable, all⟩
  | unreadable seen split all bad =>
    refine .unreadable (ends.trans seen) ?_ (List.forall_mem_cons.2 ⟨readable, all⟩) bad
    rw [hits, split, List.cons_append]

/-- The reading of the hits under a cursor is a history of the cursor, in which the next hit is
asked for a number of times. -/
theorem reads_under (r : Repository α) (n : Nat) (t : Transport σ) (c : Cursor) (s : σ) :
    ∃ k h, history t (List.replicate k .next) c s = h ∧
      h.filterMap Event.exchange? = (r.documentsUnder n c).exchanges t s ∧
      r.Reads n h ((r.documentsUnder n c).run t s).1.1 := by
  induction n generalizing c s with
  | zero => exact ⟨0, [], rfl, rfl, .full rfl⟩
  | succ n ih =>
    rw [documentsUnder, Program.exchanges_bind, Program.run_bind]
    have next (k : Nat) := history_next t k c s
    generalize c.next.run t s = step at next ⊢
    obtain ⟨⟨answer, c'⟩, s'⟩ := step
    rcases answer with - | e | hit
    · refine ⟨1, _, next 0, exchanges_step _ _ _, .exhausted (ends_step _ _ _) ?_⟩
      rw [handedOut_step]
      rfl
    · refine ⟨1, _, next 0, exchanges_step _ _ _, .failed (ends_step _ _ _) ?_⟩
      rw [handedOut_step]
      exact nofun
    · simp only [decodeHit]
      cases decoded : r.codec.decode hit.source with
      | error e =>
        have handed (x : List Exchange) :
            handedOut (x.map Event.ofExchange ++ [.handed (some (.ok hit))]) = [] ++ [hit] :=
          handedOut_step x _ []
        refine ⟨1, _, next 0, exchanges_step _ _ _,
          .unreadable (ends_step _ _ _) (handed _) nofun ?_⟩
        rw [unreadable?, decoded]
      | ok document =>
        obtain ⟨k, h, later, calls, reads⟩ := ih c' s'
        refine ⟨k + 1, _, next k, ?_, ?_⟩
        · rw [exchanges_step, later, calls]
          simp [Except.map, Program.exchanges_bind]
        · rw [later]
          simp only [Except.map, Program.run_bind, Program.run]
          exact reads.cons _ decoded

/-- What the reading of the hits tells of those that were received: which of them is the first that
cannot be decoded, if there is one. -/
theorem Reads.unreadable_received {first : Wire.Page} {lease : Duration}
    (reads : r.Reads n h result) (ends : Ends n result) (lawful : Lawful first lease h) :
    ((received first h).findSome? r.unreadable? = none ∧ h.any Event.ends = true) ∨
      ∃ e, (received first h).findSome? r.unreadable? = some e ∧ h.any Event.ends = false ∧
        result = .error e := by
  -- Where the cursor has come to its end, all that was received was handed out.
  have told {answer : Option Result} (seen : h.find? Event.ends = some (.handed answer))
      (all : ∀ hit ∈ handedOut h, r.unreadable? hit = none) :
      (received first h).findSome? r.unreadable? = none ∧ h.any Event.ends = true := by
    refine ⟨?_, List.any_eq_true.2 ⟨_, List.mem_of_find?_eq_some seen, List.find?_some seen⟩⟩
    rw [← lawful.complete answer seen]
    exact List.findSome?_eq_none_iff.2 all
  cases reads with
  | full length => exact absurd (ends _ rfl) (by omega)
  | exhausted seen all =>
    refine .inl (told seen fun hit handed => ?_)
    have decoded := List.mem_map_of_mem (f := (r.codec.decode ·.source)) handed
    rw [all] at decoded
    obtain ⟨document, -, same⟩ := List.mem_map.1 decoded
    exact unreadable?_of_decode same.symm
  | failed seen all => exact .inl (told seen all)
  | @unreadable e good bad seen split all reason =>
    refine .inr ⟨e, ?_, ?_, rfl⟩
    · obtain ⟨rest, whole⟩ := lawful.inOrder
      rw [← whole, split, List.findSome?_append, List.findSome?_append,
        List.findSome?_eq_none_iff.2 all, Option.none_or, List.findSome?_singleton, reason]
      rfl
    · rw [List.any_eq_false]
      exact List.find?_eq_none.1 seen

/-- A search for documents makes a search, and then it reads the hits. -/
theorem searchDocuments_cases (r : Repository α) (n : Nat) (query : Option Json.Value) (o : SearchOptions)
    (t : Transport σ) (s : σ) :
    let asked : Call := .search r.config.readTarget (.ofQuery query o.pageSize) o.lease
    (∃ e, (t asked s).1 = .error e ∧ (r.search query o).run t s = (.error e, (t asked s).2) ∧
        (r.searchDocuments n query o).exchanges t s = [⟨asked, .error e⟩] ∧
        (r.searchDocuments n query o).run t s = (.error e, (t asked s).2)) ∨
      ∃ first, (t asked s).1 = .ok first ∧
        let c := Cursor.start first o.cursorLease
        (r.search query o).run t s = (.ok c, (t asked s).2) ∧
        (r.searchDocuments n query o).exchanges t s =
          ⟨asked, .ok first⟩ :: (r.documentsUnder n c).exchanges t (t asked s).2 ∧
        (r.searchDocuments n query o).run t s =
          (((r.documentsUnder n c).run t (t asked s).2).1.1,
            ((r.documentsUnder n c).run t (t asked s).2).2) := by
  intro asked
  simp only [searchDocuments, Program.exchanges_bind, Program.run_bind]
  simp only [search, Program.exchanges, Program.run]
  generalize t asked s = searched
  obtain ⟨reply, s'⟩ := searched
  cases reply with
  | error e => exact .inl ⟨e, rfl, rfl, rfl, rfl⟩
  | ok first =>
    refine .inr ⟨first, rfl, rfl, ?_, ?_⟩
    · simp only [Program.run, Program.exchanges, Program.exchanges_bind, List.append_nil]
      rfl
    · simp only [Program.run, Program.run_bind]

/-- Against any transport, a search that has come to its end has released the last handle that it
was given, once, unless one of the hits cannot be decoded: then it ends with that failure, and
releases nothing. -/
theorem releases_searchDocuments (r : Repository α) (query : Option Json.Value) (o : SearchOptions)
    (t : Transport σ) (s : σ) (ends : Ends n ((r.searchDocuments n query o).run t s).1) :
    let x := (r.searchDocuments n query o).exchanges t s
    ((Exchange.hits x).findSome? r.unreadable? = none ∧
        Exchange.releases x = (Exchange.handles x).getLast?.toList) ∨
      ∃ e, (Exchange.hits x).findSome? r.unreadable? = some e ∧ Exchange.releases x = [] ∧
        ((r.searchDocuments n query o).run t s).1 = .error e := by
  intro x
  obtain ⟨e, -, -, calls, -⟩ | ⟨first, -, -, calls, result⟩ :=
    r.searchDocuments_cases n query o t s
  · rw [show x = _ from calls]
    exact .inl ⟨rfl, rfl⟩
  rw [result] at ends ⊢
  obtain ⟨k, h, seen, exchanges, reads⟩ := r.reads_under n t (.start first o.cursorLease)
    (t (.search r.config.readTarget (.ofQuery query o.pageSize) o.lease) s).2
  obtain ⟨c, tracks⟩ := Tracks.history t (List.replicate k .next) _
    (.inl (Open.start first o.cursorLease))
  rw [List.nil_append, seen] at tracks
  have lawful := tracks.lawful
  have page : Exchange.page?
      ⟨.search r.config.readTarget (.ofQuery query o.pageSize) o.lease, .ok first⟩ =
        some first := rfl
  obtain ⟨hits, handles, releases⟩ := lawful.searched page rfl
  rw [show x = _ from calls, ← exchanges, hits, handles, releases, lawful.releases]
  obtain ⟨readable, ended⟩ | ⟨e, unreadable, open_, failed⟩ :=
    reads.unreadable_received ends lawful
  · exact .inl ⟨readable, by rw [ended, if_pos rfl]⟩
  · exact .inr ⟨e, unreadable, by rw [open_]; rfl, failed⟩

/-- When a search has come to its end, it makes no difference how many documents more it might
read. -/
theorem documentsUnder_of_ends (r : Repository α) {n m : Nat} (more : n ≤ m) (t : Transport σ)
    (c : Cursor) (s : σ) (ends : Ends n ((r.documentsUnder n c).run t s).1.1) :
    (r.documentsUnder m c).run t s = (r.documentsUnder n c).run t s ∧
      (r.documentsUnder m c).exchanges t s = (r.documentsUnder n c).exchanges t s := by
  induction n generalizing m c s with
  | zero => exact absurd (ends [] rfl) (Nat.lt_irrefl 0)
  | succ n ih =>
    obtain ⟨m, rfl⟩ := Nat.exists_eq_add_one.2 (Nat.lt_of_lt_of_le (Nat.succ_pos n) more)
    rw [documentsUnder, Program.run_bind] at ends
    rw [documentsUnder, documentsUnder, Program.run_bind, Program.run_bind,
      Program.exchanges_bind, Program.exchanges_bind]
    generalize c.next.run t s = step at ends ⊢
    obtain ⟨⟨answer, c'⟩, s'⟩ := step
    cases answer with
    | none => exact ⟨rfl, rfl⟩
    | some h =>
      dsimp only at ends ⊢
      cases decoded : r.decodeHit h with
      | error e => exact ⟨rfl, rfl⟩
      | ok found =>
        simp only [decoded, Program.run_bind, Program.run] at ends
        obtain ⟨run, exchanges⟩ := ih (Nat.le_of_succ_le_succ more) c' s' fun documents read => by
          have fewer := ends (found.2 :: documents) (by rw [read]; rfl)
          rw [List.length_cons] at fewer
          exact Nat.lt_of_succ_lt_succ fewer
        simp only [Program.run_bind, Program.run, Program.exchanges_bind, run, exchanges]
        exact ⟨trivial, trivial⟩

/-- When a search has come to its end, it makes no difference how many documents more it might
read. -/
theorem searchDocuments_of_ends (r : Repository α) {m : Nat} (more : n ≤ m)
    (query : Option Json.Value) (o : SearchOptions) (t : Transport σ) (s : σ)
    (ends : Ends n ((r.searchDocuments n query o).run t s).1) :
    (r.searchDocuments m query o).run t s = (r.searchDocuments n query o).run t s ∧
      (r.searchDocuments m query o).exchanges t s =
        (r.searchDocuments n query o).exchanges t s := by
  rw [searchDocuments, Program.run_bind] at ends
  rw [searchDocuments, searchDocuments, Program.run_bind, Program.run_bind,
    Program.exchanges_bind, Program.exchanges_bind]
  generalize (r.search query o).run t s = step at ends ⊢
  obtain ⟨result, s'⟩ := step
  cases result with
  | error e => exact ⟨rfl, rfl⟩
  | ok c =>
    simp only [Program.run_bind, Program.run] at ends
    obtain ⟨run, exchanges⟩ := r.documentsUnder_of_ends more t c s' ends
    simp only [Program.run_bind, Program.run, Program.exchanges_bind, run, exchanges]
    exact ⟨trivial, trivial⟩

end Repository

end VersionedStore
