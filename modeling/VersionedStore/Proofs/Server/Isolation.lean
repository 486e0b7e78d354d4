import Mathlib.Data.Finset.Card
import Mathlib.Data.List.Nodup
import VersionedStore.Proofs.Server.Clock
import VersionedStore.Proofs.Server.Refusals

/-!
# Scrolls are isolated

All open scrolls live in one table, and every request about one of them works on that table. Still
what is told about a scroll depends on the requests about this scroll alone: on the hits that it was
opened with, on how often it was advanced and on whether it was released. What is done to other
scrolls, and what is written in the meantime, does not matter.

## Main definitions

* `ScrollEvent` — what a request does about scrolls
* `ScrollEvent.left` — what is left under a handle after such an event
* `ScrollEvent.told` — the reply, from what has happened before
* `Server.traffic` — what happens about scrolls in a run, with the replies
* `Request.Lasting` — a request that asks for no lease of no time

## Main results

* `Scrolls.releaseAll_fst` — a release counts the distinct handles that were open
* `Server.handle_scrolls` — what one request does about scrolls
* `Server.told_traffic` — the replies of a run are told by what has happened before
* `Server.scrolls_isolated` — what is told about a scroll
-/

namespace VersionedStore

open Json

/-! ## Events -/

/-- What a request does about scrolls. -/
inductive ScrollEvent
  /-- A search has found some hits and goes on, in pages of a size. -/
  | opened (handle : String) (hits : List Wire.RawHit) (size : Nat)
  /-- The next page is asked for. -/
  | advanced (handle : String)
  /-- Scrolls are released. -/
  | cleared (handles : List String)

namespace ScrollEvent

/-- Whether the next page of a scroll is asked for. -/
def advances (handle : String) : ScrollEvent → Bool
  | advanced handle' => handle' = handle
  | _ => false

/-- Whether a scroll is released. -/
def clears (handle : String) : ScrollEvent → Bool
  | cleared handles => handle ∈ handles
  | _ => false

/-- The handle of a scroll that is opened. -/
def opening? : ScrollEvent → Option String
  | opened handle _ _ => some handle
  | _ => none

/-- Whether a scroll is open after an event. -/
def isOpenAfter (handle : String) (before : Bool) : ScrollEvent → Bool
  | opened handle' _ _ => handle' = handle || before
  | advanced _ => before
  | cleared handles => before && handle ∉ handles

/-- Whether a scroll is open after some events: it was opened and has not been released since. -/
def isOpen (events : List ScrollEvent) (handle : String) : Bool :=
  events.foldl (isOpenAfter handle) false

/-- What is left under a handle after an event. -/
def left (handle : String) (before : Option Scroll) : ScrollEvent → Option Scroll
  | opened handle' hits size =>
    if handle = handle' then
      some ⟨hits.drop size, .exact (UInt64.ofNat hits.length), size, false⟩
    else before
  | advanced handle' => if handle = handle' then before.map Scroll.rest else before
  | cleared handles => if handle ∈ handles then none else before

end ScrollEvent

/-! ## Replies -/

namespace Reply

/-- A page of a scroll, with the number of all its hits. -/
def ofPage (handle : String) (total : Wire.Total) (page : List Wire.RawHit) : Reply :=
  ofText 200 (Wire.SearchReply.toText ⟨some handle, 0, total, page⟩)

/-- The number of scrolls that were released. -/
def ofCleared (handles : List String) (n : Nat) : Reply :=
  ofText (if n = 0 ∧ handles ≠ [] then 404 else 200) (Wire.ClearReply.toText ⟨true, UInt32.ofNat n⟩)

/-- There is no such scroll. -/
def ofMissing (handle : String) : Reply := ofError (.cursorMissing handle)

end Reply

/-- How many of some handles are open, repetitions apart. -/
def ScrollEvent.countOpen (isOpen : String → Bool) (handles : List String) : Nat :=
  (handles.toFinset.filter fun handle => isOpen handle).card

/-- The reply to an event, from what is left of the scrolls. -/
def ScrollEvent.answer (found : String → Option Scroll) : ScrollEvent → Reply
  | opened handle hits size => .ofPage handle (.exact (UInt64.ofNat hits.length)) (hits.take size)
  | advanced handle =>
    match found handle with
    | none => .ofMissing handle
    | some c => .ofPage handle c.total c.page
  | cleared handles => .ofCleared handles (countOpen (fun handle => (found handle).isSome) handles)

/-- What is left under a handle after some events. -/
def ScrollEvent.leftAfter (events : List ScrollEvent) (handle : String) : Option Scroll :=
  events.foldl (left handle) none

/-- The reply to an event, from what has happened before. -/
def ScrollEvent.told (past : List ScrollEvent) (e : ScrollEvent) : Reply :=
  e.answer (leftAfter past)

/-! ## Requests -/

/-- What a request of a route does about scrolls, if it can be read and is accepted. -/
def Route.scrollEvent? (s : Server) (params : Params) (body : Bytes) : Route → Option ScrollEvent
  | search index => do
    let b ← (Server.searchBody body).toOption
    let hits ← (s.hits index b).toOption
    let word ← params.find? "scroll"
    let _ ← (s.scrollLease b word).toOption
    return .opened s.scrolls.named.next hits b.size.toNat
  | advance => do
    let b ← (Server.readBody Wire.ScrollBody.read body).toOption
    let _ ← (s.lease b.lease).toOption
    return .advanced b.handle
  | clear => do
    let b ← (Server.readBody Wire.ClearBody.read body).toOption
    return .cleared b.handles
  | _ => none

/-- The lease that a request of a route asks for. -/
def Route.lease? (params : Params) (body : Bytes) : Route → Option String
  | search _ => params.find? "scroll"
  | advance => (Server.readBody Wire.ScrollBody.read body).toOption.map (·.lease)
  | _ => none

namespace Request

/-- The lease that a request asks for. -/
def lease? (r : Request) : Option String :=
  r.route?.bind (Route.lease? (Target.parse r.target).params r.body)

/-- A request that does not ask for a lease of no time. -/
def Lasting (r : Request) : Prop := ∀ word ∈ r.lease?, Wire.duration word ≠ .ok .zero

instance (r : Request) : Decidable r.Lasting :=
  inferInstanceAs (Decidable (∀ word ∈ r.lease?, Wire.duration word ≠ .ok .zero))

end Request

namespace Server

/-- What a request does about scrolls, if it can be read and is accepted. -/
def scrollEvent? (s : Server) (r : Request) : Option ScrollEvent :=
  r.route?.bind (Route.scrollEvent? s (Target.parse r.target).params r.body)

/-- What happens about scrolls in a run, with the replies. Each request comes with the room that the
clock has by then, and one that breaks off has no reply. -/
def traffic (s : Server) : List (Duration × Request) → List (ScrollEvent × Reply)
  | [] => []
  | (room, r) :: rest =>
    let served := s.serve room r
    (served.1.bind fun reply => (s.scrollEvent? r).map fun e => (e, reply)).toList ++
      traffic served.2 rest

end Server

/-! ## One request -/

namespace Scrolls

open ScrollEvent

variable {r : Scrolls}

/-- Nothing is left under the handles that were released, and under others everything. -/
theorem find?_releaseAll (r : Scrolls) (handles : List String) (handle : String) :
    (r.releaseAll handles).2.contexts.find? handle =
      if handle ∈ handles then none else r.contexts.find? handle := by
  induction handles generalizing r with
  | nil => rfl
  | cons first others ih =>
    rw [releaseAll]
    simp only [ih, release, Table.find?_erase, List.mem_cons]
    by_cases same : handle = first <;> by_cases among : handle ∈ others <;> simp [same, among]

theorem named_releaseAll (r : Scrolls) (handles : List String) :
    (r.releaseAll handles).2.named = r.named := by
  induction handles generalizing r with
  | nil => rfl
  | cons first others ih =>
    rw [releaseAll]
    exact ih _

theorem releaseAll_cons_fst (r : Scrolls) (first : String) (others : List String) :
    (r.releaseAll (first :: others)).1 =
      (if r.contexts.contains first then 1 else 0) + ((r.release first).2.releaseAll others).1 :=
  rfl

/-- A release counts the distinct handles that were open. -/
theorem releaseAll_fst (r : Scrolls) (handles : List String) :
    (r.releaseAll handles).1 = countOpen (fun handle => r.contexts.contains handle) handles := by
  induction handles generalizing r with
  | nil => rfl
  | cons first others ih =>
    -- A handle that stands again further on is not open any more there.
    have without : (others.toFinset.filter fun handle =>
        (r.release first).2.contexts.contains handle) =
          (others.toFinset.filter fun handle => r.contexts.contains handle).erase first := by
      ext handle
      rw [Finset.mem_erase, Finset.mem_filter, Finset.mem_filter, release, Table.contains,
        Table.contains, Table.find?_erase]
      by_cases same : handle = first <;> simp [same, Table.contains]
    rw [releaseAll_cons_fst, ih, countOpen, countOpen, without, List.toFinset_cons,
      Finset.filter_insert]
    by_cases there : r.contexts.contains first = true
    · rw [if_pos there, if_pos there, Finset.card_erase_eq_ite, Finset.card_insert_eq_ite]
      split
      · next among =>
        have some := Finset.card_pos.2 ⟨_, among⟩
        omega
      · exact Nat.add_comm _ _
    · have apart : first ∉ others.toFinset.filter fun handle => r.contexts.contains handle :=
        fun among => there (Finset.mem_filter.1 among).2
      rw [if_neg there, if_neg there, Finset.erase_eq_of_notMem apart, Nat.zero_add]

end Scrolls

/-- What an event does to the scrolls: no lease runs out, under each handle is left what the event
leaves, and a scroll that is opened has the next handle. -/
structure ScrollEvent.Does (e : ScrollEvent) (r r' : Scrolls) : Prop where
  running : r'.Running
  left : ∀ handle, r'.contexts.find? handle = e.left handle (r.contexts.find? handle)
  named : (e.opening? = none ∧ r'.named = r.named) ∨
    (e.opening? = some r.named.next ∧ r'.named = r.named.rest)

namespace Scrolls

open ScrollEvent

variable {r : Scrolls}

/-- One more scroll whose lease runs. -/
theorem Running.insert (running : r.Running) (handle : String) {c : Scroll} (n : Names)
    (lasts : c.lapsed = false) : Running ⟨r.contexts.insert handle c, n⟩ := by
  intro handle' c' found
  rw [Table.find?_insert] at found
  split at found
  · rwa [← Option.some.inj found]
  · exact running handle' c' found

theorem does_start (running : r.Running) (hits : List Wire.RawHit) (size : Nat) {lease : Duration}
    (lasts : lease ≠ .zero) :
    (opened r.named.next hits size).Does r (r.start hits size lease).2 := by
  rw [start, running.purge]
  refine ⟨running.insert _ _ (decide_eq_false lasts), fun handle => ?_, .inr ⟨rfl, rfl⟩⟩
  simp only [Table.find?_insert, ScrollEvent.left, Scroll.rest, decide_eq_false lasts]

theorem does_advance (running : r.Running) (handle : String) {lease : Duration}
    (lasts : lease ≠ .zero) : (advanced handle).Does r (r.advance handle lease).2 := by
  unfold advance
  simp only [running.purge]
  cases found : r.contexts.find? handle with
  | none =>
    refine ⟨running, fun handle' => ?_, .inl ⟨rfl, rfl⟩⟩
    dsimp only
    rw [ScrollEvent.left]
    split
    · next same => rw [same, found]; rfl
    · rfl
  | some c =>
    refine ⟨running.insert _ _ (decide_eq_false lasts), fun handle' => ?_, .inl ⟨rfl, rfl⟩⟩
    rw [Table.find?_insert, ScrollEvent.left]
    split
    · next same =>
      have lapsed := running handle c found
      rw [same, found, Option.map_some, Scroll.renew, decide_eq_false lasts, ← lapsed]
      rfl
    · rfl

theorem does_clear (running : r.Running) (handles : List String) :
    (cleared handles).Does r (r.clear handles).2 := by
  rw [clear, running.purge]
  refine ⟨fun handle c found => ?_, r.find?_releaseAll handles,
    .inl ⟨rfl, r.named_releaseAll handles⟩⟩
  rw [find?_releaseAll] at found
  split at found
  · cases found
  · exact running handle c found

end Scrolls

namespace Server

variable {s : Server} {params : Params} {body : Bytes}

/-- The reply of an answer. -/
def replyOf : Except StoreError Reply → Reply
  | .ok reply => reply
  | .error e => .ofError e

theorem handle_fst (s : Server) (r : Request) : (s.handle r).1 = replyOf (s.answer r).1 := by
  rw [handle]
  obtain ⟨reply, s'⟩ := s.answer r
  cases reply <;> rfl

/-- A lease that is accepted is the one that is asked for. -/
theorem duration_of_lease {word : String} {lease : Duration} (accepted : s.lease word = .ok lease) :
    Wire.duration word = .ok lease := by
  unfold Server.lease at accepted
  split at accepted
  · cases accepted
  · next d read =>
    dsimp only at accepted
    split at accepted
    · cases accepted
    · rw [read, ← Except.ok.inj accepted]

/-- What an event tells and does, where there is one; otherwise the scrolls are as they were. -/
def Answers (s : Server) (e : Option ScrollEvent) (answered : Except StoreError Reply × Server) :
    Prop :=
  match e with
  | none => answered.2.scrolls = s.scrolls
  | some e => replyOf answered.1 = e.answer s.scrolls.contexts.find? ∧
      e.Does s.scrolls answered.2.scrolls

theorem search_answers (running : s.scrolls.Running) (index : String)
    (lasting : ∀ word, params.find? "scroll" = some word → Wire.duration word ≠ .ok .zero) :
    s.Answers (Route.scrollEvent? s params body (.search index)) (s.search index params body) := by
  rw [Route.scrollEvent?, search]
  cases searchBody body with
  | error e => rfl
  | ok b =>
    cases found : s.hits index b with
    | error e =>
      simp only [found, Except.toOption, Option.bind_eq_bind, Option.bind_some, Option.bind_none]
      rfl
    | ok hits =>
      cases given : params.find? "scroll" with
      | none =>
        simp only [found, Except.toOption, Option.bind_eq_bind, Option.bind_some, Option.bind_none]
        rfl
      | some word =>
        cases leased : s.scrollLease b word with
        | error e =>
          simp only [found, leased, Except.toOption, Option.bind_eq_bind, Option.bind_some,
            Option.bind_none]
          rfl
        | ok lease =>
          have accepted : s.lease word = .ok lease := by
            rw [scrollLease] at leased
            split at leased
            · cases leased
            · exact leased
          have lasts : lease ≠ .zero := by
            rintro rfl
            exact lasting word given (duration_of_lease accepted)
          simp only [found, leased, Except.toOption, Option.bind_eq_bind, Option.bind_some]
          exact ⟨rfl, Scrolls.does_start running hits b.size.toNat lasts⟩

theorem advance_answers (running : s.scrolls.Running)
    (lasting : ∀ word, Route.lease? params body .advance = some word →
      Wire.duration word ≠ .ok .zero) :
    s.Answers (Route.scrollEvent? s params body .advance) (s.advance body) := by
  rw [Route.lease?] at lasting
  rw [Route.scrollEvent?, advance]
  cases read : readBody Wire.ScrollBody.read body with
  | error e => rfl
  | ok b =>
    cases leased : s.lease b.lease with
    | error e =>
      simp only [leased, Except.toOption, Option.bind_eq_bind, Option.bind_some, Option.bind_none]
      rfl
    | ok lease =>
      have lasts : lease ≠ .zero := by
        rintro rfl
        refine lasting b.lease ?_ (duration_of_lease leased)
        rw [read]
        rfl
      simp only [leased, Except.toOption, Option.bind_eq_bind, Option.bind_some]
      refine ⟨?_, Scrolls.does_advance running b.handle lasts⟩
      rw [Scrolls.advance, ScrollEvent.answer]
      simp only [running.purge]
      cases s.scrolls.contexts.find? b.handle <;> rfl

theorem clear_answers (running : s.scrolls.Running) :
    s.Answers (Route.scrollEvent? s params body .clear) (s.clear body) := by
  rw [Route.scrollEvent?, clear]
  cases readBody Wire.ClearBody.read body with
  | error e => rfl
  | ok b =>
    refine ⟨?_, Scrolls.does_clear running b.handles⟩
    simp only [Scrolls.clear, running.purge, Scrolls.releaseAll_fst]
    rfl

/-- What one request does about scrolls, whatever it asks for. -/
theorem handle_scrolls (running : s.scrolls.Running) {r : Request} (lasting : r.Lasting) :
    match s.scrollEvent? r with
    | none => (s.handle r).2.scrolls = s.scrolls
    | some e => (s.handle r).1 = e.answer s.scrolls.contexts.find? ∧
        e.Does s.scrolls (s.handle r).2.scrolls := by
  suffices answers : s.Answers (s.scrollEvent? r) (s.answer r) by
    rw [handle_fst, handle_snd]
    exact answers
  rw [Request.Lasting, Request.lease?] at lasting
  rw [scrollEvent?, answer]
  cases route : r.route? with
  | none =>
    rw [Request.route?] at route
    simp only [route]
    rfl
  | some route' =>
    rw [route, Option.bind_some] at lasting
    rw [Request.route?] at route
    simp only [route, Option.bind_some]
    cases route' with
    | search index => exact search_answers running index lasting
    | advance => exact advance_answers running lasting
    | clear => exact clear_answers running
    | bulk index =>
      rw [run]
      unfold bulk
      split <;> rfl
    | get | count | refresh => rfl
    | put index id =>
      rw [run]
      split
      · rfl
      · exact s.scrolls_write ..
    | create index id => exact s.scrolls_write ..
    | delete index id =>
      rw [run]
      unfold delete
      split <;> rfl

end Server

/-! ## Pages -/

/-- Pages that together are the first of some hits, each of them as large as it can be. -/
structure Scroll.Paged (hits : List Wire.RawHit) (size : Nat) (pages : List (List Wire.RawHit)) :
    Prop where
  flatten : pages.flatten = hits.take (pages.length * size)
  length : ∀ (i : Nat) (page : List Wire.RawHit), pages[i]? = some page →
    page.length = min size (hits.length - i * size)

namespace Scroll.Paged

variable {hits : List Wire.RawHit} {size : Nat} {pages : List (List Wire.RawHit)}

theorem nil : Paged hits size [] := ⟨by simp, nofun⟩

/-- The first page, and those of the hits behind it. -/
theorem cons (others : Paged (hits.drop size) size pages) :
    Paged hits size (hits.take size :: pages) where
  flatten := by
    rw [List.flatten_cons, others.flatten, List.length_cons, Nat.succ_mul, Nat.add_comm,
      List.take_add]
  length i page here := by
    cases i with
    | zero =>
      obtain rfl := Option.some.inj here
      rw [List.length_take, Nat.zero_mul, Nat.sub_zero]
    | succ i =>
      rw [others.length i page here, Nat.succ_mul, Nat.add_comm, ← Nat.sub_sub, List.length_drop]

end Scroll.Paged

/-! ## A run -/

namespace ScrollEvent

variable {past : List ScrollEvent} {e : ScrollEvent} {handle : String}

theorem leftAfter_concat (past : List ScrollEvent) (e : ScrollEvent) (handle : String) :
    leftAfter (past ++ [e]) handle = e.left handle (leftAfter past handle) := by
  rw [leftAfter, List.foldl_append]
  rfl

/-- Something is left under the handles of the scrolls that are open. -/
theorem isSome_leftAfter (past : List ScrollEvent) (handle : String) :
    (leftAfter past handle).isSome = isOpen past handle := by
  refine (List.foldl_hom Option.isSome fun c e => ?_).symm
  cases e with
  | opened handle' hits size =>
    by_cases same : handle' = handle
    · simp [isOpenAfter, left, same]
    · simp [isOpenAfter, left, same, Ne.symm same]
  | advanced handle' => by_cases same : handle = handle' <;> simp [isOpenAfter, left, same]
  | cleared handles => by_cases among : handle ∈ handles <;> simp [isOpenAfter, left, among]

/-- What is not about a scroll leaves it as it is. -/
theorem left_of_apart (c : Option Scroll) (unopened : e.opening? ≠ some handle)
    (kept : e.clears handle = false) (waits : e.advances handle = false) :
    e.left handle c = c := by
  cases e with
  | opened handle' hits size => exact if_neg fun same => unopened (congrArg some same.symm)
  | advanced handle' => exact if_neg fun same => of_decide_eq_false waits same.symm
  | cleared handles => exact if_neg (of_decide_eq_false kept)

theorem left_of_clears (c : Option Scroll) (clears : e.clears handle = true) :
    e.left handle c = none := by
  cases e with
  | opened | advanced => cases clears
  | cleared handles => exact if_pos (of_decide_eq_true clears)

theorem eq_of_advances (advances : e.advances handle = true) : e = .advanced handle := by
  cases e with
  | opened | cleared => cases advances
  | advanced handle' => rw [of_decide_eq_true advances]

theorem clears_of_advances (advances : e.advances handle = true) : e.clears handle = false := by
  rw [eq_of_advances advances]
  rfl

/-- A scroll that is open stays open until it is released, if it is not opened again. -/
theorem isOpen_append_iff (open_ : isOpen past handle = true) {later : List ScrollEvent}
    (once : ∀ e ∈ later, e.opening? ≠ some handle) :
    isOpen (past ++ later) handle = true ↔ ∀ e ∈ later, e.clears handle = false := by
  induction later using List.reverseRecOn with
  | nil => simpa using open_
  | append_singleton later e ih =>
    obtain ⟨before, now⟩ := List.forall_mem_append.1 once
    have apart := now e (List.mem_singleton_self e)
    rw [← List.append_assoc, List.forall_mem_append, List.forall_mem_singleton, ← ih before, isOpen,
      List.foldl_append]
    cases e with
    | opened handle' hits size =>
      have other : handle' ≠ handle := fun same => apart (congrArg some same)
      simp [isOpenAfter, clears, isOpen, other]
    | advanced handle' => simp [isOpenAfter, clears, isOpen]
    | cleared handles => simp [isOpenAfter, clears, isOpen]

/-- Every reply is told by what has happened before. -/
def AllTold (past : List ScrollEvent) : List (ScrollEvent × Reply) → Prop
  | [] => True
  | (e, reply) :: later => reply = e.told past ∧ AllTold (past ++ [e]) later

theorem AllTold.append {before later : List (ScrollEvent × Reply)}
    (h : AllTold past (before ++ later)) : AllTold (past ++ before.map Prod.fst) later := by
  induction before generalizing past with
  | nil => simpa using h
  | cons x before ih => simpa using ih h.2

/-- The replies to those who have asked for the next page of a scroll. -/
def repliesTo (handle : String) (log : List (ScrollEvent × Reply)) : List Reply :=
  (log.filter fun x => x.1.advances handle).map Prod.snd

/-- What happens before a scroll is released. -/
def untilCleared (handle : String) (log : List (ScrollEvent × Reply)) :
    List (ScrollEvent × Reply) := log.takeWhile fun x => !x.1.clears handle

/-- What happens from the release of a scroll on. -/
def sinceCleared (handle : String) (log : List (ScrollEvent × Reply)) :
    List (ScrollEvent × Reply) := log.dropWhile fun x => !x.1.clears handle

variable {later : List (ScrollEvent × Reply)}

theorem repliesTo_cons (handle : String) (e : ScrollEvent) (reply : Reply)
    (later : List (ScrollEvent × Reply)) :
    repliesTo handle ((e, reply) :: later) =
      if e.advances handle then reply :: repliesTo handle later else repliesTo handle later := by
  rw [repliesTo, List.filter_cons]
  split <;> rfl

/-- The hits that are left are told in pages until the scroll is released. -/
theorem AllTold.exists_pages (told : AllTold past later)
    (once : ∀ x ∈ later, x.1.opening? ≠ some handle) {hits : List Wire.RawHit}
    {total : Wire.Total} {size : Nat}
    (holds : leftAfter past handle = some ⟨hits, total, size, false⟩) :
    ∃ pages, repliesTo handle (untilCleared handle later) = pages.map (Reply.ofPage handle total) ∧
      Scroll.Paged hits size pages := by
  induction later generalizing past hits with
  | nil => exact ⟨[], rfl, .nil⟩
  | cons x later ih =>
    obtain ⟨e, reply⟩ := x
    obtain ⟨reply_eq, told⟩ := told
    obtain ⟨unopened, others⟩ := List.forall_mem_cons.1 once
    have after := leftAfter_concat past e handle
    cases clears : e.clears handle with
    | true =>
      refine ⟨[], ?_, .nil⟩
      rw [untilCleared, List.takeWhile_cons_of_neg (by simp [clears])]
      rfl
    | false =>
      rw [untilCleared, List.takeWhile_cons_of_pos (by simp [clears]), repliesTo_cons]
      cases advances : e.advances handle with
      | true =>
        obtain rfl := eq_of_advances advances
        rw [left, if_pos rfl, holds, Option.map_some] at after
        obtain ⟨pages, replies, paged⟩ := ih told others after
        refine ⟨hits.take size :: pages, ?_, paged.cons⟩
        rw [if_pos rfl, List.map_cons, reply_eq, ScrollEvent.told, answer, holds]
        exact congrArg _ replies
      | false =>
        rw [left_of_apart _ unopened clears advances, holds] at after
        exact ih told others after

/-- Where nothing is left there is no scroll to go on with. -/
theorem AllTold.missing (told : AllTold past later)
    (once : ∀ x ∈ later, x.1.opening? ≠ some handle) (none : leftAfter past handle = none) :
    ∀ reply ∈ repliesTo handle later, reply = .ofMissing handle := by
  induction later generalizing past with
  | nil => exact List.forall_mem_nil _
  | cons x later ih =>
    obtain ⟨e, reply⟩ := x
    obtain ⟨reply_eq, told⟩ := told
    obtain ⟨unopened, once⟩ := List.forall_mem_cons.1 once
    have still : leftAfter (past ++ [e]) handle = Option.none := by
      rw [leftAfter_concat, none]
      cases e with
      | opened handle' hits size => exact if_neg fun same => unopened (congrArg some same.symm)
      | advanced handle' => exact ite_self _
      | cleared handles => exact ite_self _
    have others := ih told once still
    rw [repliesTo_cons]
    cases advances : e.advances handle with
    | true =>
      obtain rfl := eq_of_advances advances
      refine List.forall_mem_cons.2 ⟨?_, others⟩
      rw [reply_eq, ScrollEvent.told, answer, none]
    | false => exact others

/-- From its release on there is no scroll to go on with. -/
theorem AllTold.missing_sinceCleared (told : AllTold past later)
    (once : ∀ x ∈ later, x.1.opening? ≠ some handle) :
    ∀ reply ∈ repliesTo handle (sinceCleared handle later), reply = .ofMissing handle := by
  induction later generalizing past with
  | nil => exact List.forall_mem_nil _
  | cons x later ih =>
    obtain ⟨e, reply⟩ := x
    obtain ⟨unopened, others⟩ := List.forall_mem_cons.1 once
    cases clears : e.clears handle with
    | true =>
      have waits : e.advances handle = false := by
        by_contra advances
        rw [clears_of_advances (Bool.eq_true_of_not_eq_false advances)] at clears
        cases clears
      rw [sinceCleared, List.dropWhile_cons_of_neg (by simp [clears]), repliesTo_cons, waits]
      refine told.2.missing others ?_
      rw [leftAfter_concat, left_of_clears _ clears]
    | false =>
      rw [sinceCleared, List.dropWhile_cons_of_pos (by simp [clears])]
      exact ih told.2 others

end ScrollEvent

open ScrollEvent

/-- What holds of the scrolls after some events. -/
structure Scrolls.Tracks (r : Scrolls) (past : List ScrollEvent) : Prop where
  running : r.Running
  left : ∀ handle, r.contexts.find? handle = leftAfter past handle
  named : past.filterMap opening? = (List.range r.named.given).map r.named.supply.name

theorem Scrolls.tracks_empty (handles : NameSupply) : (empty handles).Tracks [] :=
  ⟨nofun, fun _ => rfl, rfl⟩

/-- What an event keeps. -/
theorem ScrollEvent.Does.tracks {r r' : Scrolls} {past : List ScrollEvent} {e : ScrollEvent}
    (did : e.Does r r') (h : r.Tracks past) : r'.Tracks (past ++ [e]) := by
  refine ⟨did.running, fun handle => ?_, ?_⟩
  · rw [did.left, h.left, leftAfter_concat]
  · rw [List.filterMap_append, h.named]
    obtain ⟨none, same⟩ | ⟨handle, next⟩ := did.named
    · rw [List.filterMap_cons_none none, same]
      exact List.append_nil _
    · rw [List.filterMap_cons_some handle, next, Names.rest, List.range_succ, List.map_append]
      rfl

namespace Server

variable {s : Server} {past : List ScrollEvent} {requests : List (Duration × Request)}

/-- What one request does about scrolls, if it has a reply; if it has none, they stay. -/
theorem serve_scrolls (running : s.scrolls.Running) (room : Duration) {r : Request}
    (lasting : r.Lasting) :
    match (s.serve room r).1, s.scrollEvent? r with
    | some reply, some e => reply = e.answer s.scrolls.contexts.find? ∧
        e.Does s.scrolls (s.serve room r).2.scrolls
    | _, _ => (s.serve room r).2.scrolls = s.scrolls := by
  cases broken : s.overruns room r with
  | true =>
    have kept : (s.brokenOff r).scrolls = s.scrolls := by
      rw [brokenOff]
      split
      · exact running.purge
      · rfl
    rw [s.serve_of_overruns broken]
    exact kept
  | false =>
    have answered := s.handle_scrolls running lasting
    rw [s.serve_of_room broken]
    cases event : s.scrollEvent? r with
    | none =>
      rw [event] at answered
      exact answered
    | some e =>
      rw [event] at answered
      exact answered

/-- The replies of a run are told by what has happened before, and no two scrolls that are opened
in it have the same handle. -/
theorem told_traffic (h : s.scrolls.Tracks past) (lasting : ∀ x ∈ requests, x.2.Lasting) :
    AllTold past (s.traffic requests) ∧
      ((past ++ (s.traffic requests).map Prod.fst).filterMap opening?).Nodup := by
  induction requests generalizing s past with
  | nil =>
    refine ⟨trivial, ?_⟩
    rw [traffic, List.map_nil, List.append_nil, h.named]
    exact List.nodup_range.map s.scrolls.named.supply.distinct
  | cons x rest ih =>
    obtain ⟨room, r⟩ := x
    obtain ⟨first, others⟩ := List.forall_mem_cons.1 lasting
    have step := s.serve_scrolls h.running room first
    rw [traffic]
    generalize s.serve room r = served at step
    obtain ⟨reply, s'⟩ := served
    cases reply with
    | none => exact ih (step ▸ h) others
    | some reply =>
    cases event : s.scrollEvent? r with
    | none =>
      rw [event] at step
      exact ih (step ▸ h) others
    | some e =>
      rw [event] at step
      obtain ⟨reply, did⟩ := step
      obtain ⟨told, nodup⟩ := ih (did.tracks h) others
      refine ⟨⟨?_, told⟩, ?_⟩
      · rw [reply, ScrollEvent.told]
        exact congrArg e.answer (funext h.left)
      · simpa using nodup

/-- Any requests to a server, in whatever order their clients make them, none of which asks for a
lease of no time; a request for a lease whose end the clock cannot tell breaks off, and does
nothing. The search that opens a scroll and the requests for its next page are answered by pages that
together are the first of the hits that were found at the opening, each of them as large as it can
be, with the number of all hits; the scroll is open until it is released, and after that it is
missing. A release counts the distinct ones among its handles that are open. -/
theorem scrolls_isolated {handles : NameSupply} (none : s.scrolls = .empty handles)
    (lasting : ∀ x ∈ requests, x.2.Lasting) :
    (∀ past handle hits size reply later,
      s.traffic requests = past ++ (.opened handle hits size, reply) :: later →
      (∃ pages, Scroll.Paged hits size pages ∧
        reply :: repliesTo handle (untilCleared handle later) =
          pages.map (.ofPage handle (.exact (UInt64.ofNat hits.length)))) ∧
      (∀ refusal ∈ repliesTo handle (sinceCleared handle later), refusal = .ofMissing handle) ∧
      ∀ done rest, later = done ++ rest →
        (isOpen ((past ++ (.opened handle hits size, reply) :: done).map Prod.fst) handle = true ↔
          ∀ x ∈ done, x.1.clears handle = false)) ∧
    ∀ past handles reply later, s.traffic requests = past ++ (.cleared handles, reply) :: later →
      reply = .ofCleared handles (countOpen (isOpen (past.map Prod.fst)) handles) := by
  have begun : s.scrolls.Tracks [] := none ▸ Scrolls.tracks_empty handles
  obtain ⟨told, nodup⟩ := told_traffic begun lasting
  constructor
  · intro past handle hits size reply later split
    rw [split] at told nodup
    obtain ⟨first, others⟩ := told.append
    rw [List.nil_append] at first others
    have once : ∀ x ∈ later, x.1.opening? ≠ some handle := by
      rw [List.nil_append, List.map_append, List.filterMap_append] at nodup
      have distinct : (handle :: (later.map Prod.fst).filterMap opening?).Nodup :=
        (List.nodup_append.1 nodup).2.1
      intro x hx again
      refine (List.nodup_cons.1 distinct).1 ?_
      exact List.mem_filterMap.2 ⟨x.1, List.mem_map_of_mem hx, again⟩
    have holds : leftAfter (past.map Prod.fst ++ [.opened handle hits size]) handle =
        some ⟨hits.drop size, .exact (UInt64.ofNat hits.length), size, false⟩ := by
      rw [leftAfter_concat, ScrollEvent.left, if_pos rfl]
    have open_ : isOpen (past.map Prod.fst ++ [.opened handle hits size]) handle = true := by
      rw [← isSome_leftAfter, holds]
      rfl
    refine ⟨?_, others.missing_sinceCleared once, fun done rest all => ?_⟩
    · obtain ⟨pages, replies, paged⟩ := others.exists_pages once holds
      exact ⟨_, paged.cons, by rw [replies, first]; rfl⟩
    · subst all
      have anew : ∀ e ∈ done.map Prod.fst, e.opening? ≠ some handle :=
        List.forall_mem_map.2 fun x hx => once x (List.mem_append_left _ hx)
      have stays := isOpen_append_iff open_ anew
      rw [List.append_assoc, List.forall_mem_map] at stays
      rw [List.map_append]
      exact stays
  · intro past handles reply later split
    rw [split] at told
    have cleared := told.append.1
    rw [List.nil_append] at cleared
    rw [cleared, ScrollEvent.told]
    simp only [ScrollEvent.answer, isSome_leftAfter]

/-- Three documents are searched for in pages of two, one of them is deleted and another search is
begun; then the last document is asked for, first while the clock has no room for the lease and then
once more, the first search is released, with its handle told twice, and it is missing. -/
def twoScrolls : List (Duration × Request) :=
  let day := Duration.ofSeconds 86400
  let page : Request :=
    ⟨"POST", "/_search/scroll", (Wire.ScrollBody.toText ⟨"1m", Name.cursor 0⟩).write⟩
  [(day, ⟨"PUT", "/things/_doc/a", Utf8.encode "\x7b\x7d"⟩),
    (day, ⟨"PUT", "/things/_doc/b", Utf8.encode "\x7b\x7d"⟩),
    (day, ⟨"PUT", "/things/_doc/c?refresh=true", Utf8.encode "\x7b\x7d"⟩),
    (day, ⟨"POST", "/things/_search?scroll=1m", Utf8.encode "\x7b\"size\":2\x7d"⟩),
    (day, ⟨"DELETE", "/things/_doc/c?refresh=true", []⟩),
    (day, ⟨"POST", "/things/_search?scroll=1m", Utf8.encode "\x7b\"size\":1\x7d"⟩),
    (.ofSeconds 30, page), (day, page),
    (day, ⟨"DELETE", "/_search/scroll",
      (Wire.ClearBody.toText ⟨[Name.cursor 0, Name.cursor 0]⟩).write⟩),
    (day, page)]

theorem scrolls_isolated_twoScrolls :
    let s := Server.empty {}
    let first := Name.cursor 0
    (s.scrolls = .empty ∧ ∀ x ∈ twoScrolls, x.2.Lasting) ∧
      (s.traffic twoScrolls).map (fun x => x.2.status) = [200, 200, 200, 200, 404] ∧
      ∃ hits size reply later pages,
        s.traffic twoScrolls = (.opened first hits size, reply) :: later ∧
          Scroll.Paged hits size pages ∧ pages.length = 2 ∧
            reply :: repliesTo first (untilCleared first later) =
              pages.map (.ofPage first (.exact (UInt64.ofNat hits.length))) := by
  intro s first
  have lasting : ∀ x ∈ twoScrolls, x.2.Lasting := by decide +kernel
  have statuses : (s.traffic twoScrolls).map (fun x => x.2.status) = [200, 200, 200, 200, 404] := by
    decide +kernel
  have opening : (s.traffic twoScrolls).head?.bind (fun x => x.1.opening?) = some first := by
    decide +kernel
  have asked : (repliesTo first (untilCleared first (s.traffic twoScrolls).tail)).length = 1 := by
    decide +kernel
  have isolated := (scrolls_isolated (s := s) rfl lasting).1
  refine ⟨⟨rfl, lasting⟩, statuses, ?_⟩
  generalize s.traffic twoScrolls = log at opening asked isolated
  cases log with
  | nil => cases opening
  | cons x later =>
    obtain ⟨e, reply⟩ := x
    cases e with
    | advanced | cleared => cases opening
    | opened handle hits size =>
      obtain rfl := Option.some.inj opening
      obtain ⟨⟨pages, paged, replies⟩, -⟩ := isolated [] _ hits size reply later rfl
      have lengths := congrArg List.length replies
      rw [List.length_cons, List.length_map] at lengths
      exact ⟨hits, size, reply, later, pages, rfl, paged, lengths.symm.trans (congrArg _ asked),
        replies⟩

end Server

end VersionedStore
