import VersionedStore.Client.Cursor
import VersionedStore.Proofs.Client.Requests

/-!
# The history of a cursor

What is seen of a cursor are its calls with their replies and its answers to the caller. Whatever a
transport replies, and whatever the caller does, this history follows a few rules: hits come in the
order in which they were received, a page is asked for only when it has to be, a failure is told
once, and the latest handle is released once.

## Main definitions

* `Cursor.Act`, `Cursor.Event` — what a caller does with a cursor, and what is seen of it
* `Cursor.history` — what is seen of a cursor while a caller uses it
* `Cursor.Lawful` — the rules of a history
* `Cursor.Shows` — what is seen of a single act

## Main results

* `Cursor.shows_act` — an act shows one of a few things
* `Cursor.Tracks.shows` — a cursor keeps track of its history through every act
* `Cursor.lawful_history` — every history follows the rules
-/

namespace VersionedStore

variable {α β σ : Type}

namespace Cursor

/-! ## Histories -/

/-- What a caller does with a cursor. -/
inductive Act
  /-- Asks for the next hit. -/
  | next
  /-- Releases the cursor. -/
  | release
  /-- Lets go of the cursor. -/
  | drop

/-- What is seen of a cursor. -/
inductive Event
  /-- The cursor makes a call and gets a reply. -/
  | called (c : Call) (reply : c.Reply)
  /-- The caller gets a hit, a failure or, at the end, nothing. -/
  | handed (answer : Option Result)
  /-- The caller has released the cursor. -/
  | released (answer : Except ClientError Unit)
  /-- The caller has let go of the cursor. -/
  | dropped

namespace Event

/-- The page that is received. -/
def page? : Event → Option Wire.Page
  | called (.advance ..) (.ok p) => some p
  | _ => none

/-- The failure to get a page. -/
def failure? : Event → Option ClientError
  | called (.advance ..) (.error e) => some e
  | _ => none

/-- The handle that is released. -/
def release? : Event → Option String
  | called (.release handle) _ => some handle
  | _ => none

/-- The hit that is handed out. -/
def hit? : Event → Option Wire.Hit
  | handed (some (.ok hit)) => some hit
  | _ => none

/-- The failure that is handed out. -/
def error? : Event → Option ClientError
  | handed (some (.error e)) => some e
  | _ => none

/-- Whether the caller has seen the end: the search was over, it failed, or the caller gave up. -/
def ends : Event → Bool
  | handed none => true
  | handed (some (.error _)) => true
  | released _ => true
  | dropped => true
  | _ => false

end Event

/-- What a cursor does for an act, with the answer to the caller at last. -/
def Act.program (c : Cursor) : Act → Program (Event × Cursor)
  | next => c.next.bind fun r => .done (.handed r.1, r.2)
  | release => c.release.bind fun r => .done (.released r.1, r.2)
  | drop => c.drop.bind fun c => .done (.dropped, c)

/-- What is seen of one act: the calls that it takes, then the answer. -/
def observe (t : Transport σ) (p : Program (Event × Cursor)) (s : σ) : List Event :=
  ((p.exchanges t s).map fun e => .called e.1 e.2) ++ [(p.run t s).1.1]

/-- What is seen of a cursor while a caller uses it. -/
def history (t : Transport σ) : List Act → Cursor → σ → List Event
  | [], _, _ => []
  | a :: acts, c, s =>
    observe t (a.program c) s ++
      history t acts ((a.program c).run t s).1.2 ((a.program c).run t s).2

theorem history_append (t : Transport σ) (acts more : List Act) (c : Cursor) (s : σ) :
    ∃ c' s', history t (acts ++ more) c s = history t acts c s ++ history t more c' s' := by
  induction acts generalizing c s with
  | nil => exact ⟨c, s, rfl⟩
  | cons a acts ih =>
    obtain ⟨c', s', rest⟩ := ih ((a.program c).run t s).1.2 ((a.program c).run t s).2
    exact ⟨c', s', by rw [List.cons_append, history, rest, history, List.append_assoc]⟩

/-! ## Rules -/

section Rules

variable (first : Wire.Page) (lease : Duration) (h : List Event)

/-- The pages that were received. -/
def pagesSeen : List Wire.Page := first :: h.filterMap Event.page?

/-- The hits that were received. -/
def received : List Wire.Hit := (pagesSeen first h).flatMap Wire.Page.hits

/-- The hits that were handed out. -/
def handedOut : List Wire.Hit := h.filterMap Event.hit?

/-- The handle that was received most recently. -/
def latestHandle? : Option String := ((pagesSeen first h).filterMap Wire.Page.handle).getLast?

/-- When the next page may be asked for. -/
structure MayAdvance (handle : String) : Prop where
  allHanded : handedOut h = received first h
  goesOn : ∀ p ∈ pagesSeen first h, p.hits ≠ [] ∧ p.handle ≠ none
  latest : (pagesSeen first h).getLast?.bind Wire.Page.handle = some handle
  noFailure : h.filterMap Event.failure? = []
  noRelease : h.filterMap Event.release? = []
  open_ : h.any Event.ends = false

/-- Nothing more is handed out: the caller has seen the end, a page was empty, or a page had no
handle and its hits are used up. -/
def Spent : Prop :=
  h.any Event.ends = true ∨ (∃ p ∈ pagesSeen first h, p.hits = []) ∨
    (∃ p ∈ pagesSeen first h, p.handle = none) ∧ handedOut h = received first h

/-- What may be seen next. -/
def Allowed : Event → Prop
  | .called (.advance handle l) _ => MayAdvance first h handle ∧ l = lease
  | .called (.release handle) _ => latestHandle? first h = some handle
  | .called _ _ => False
  | .handed answer => Spent first h → answer = none
  | _ => True

/-- The rules of a history. -/
structure Lawful : Prop where
  /-- Everything is allowed by what was seen before it. -/
  allowed : ∀ past e later, h = past ++ e :: later → Allowed first lease past e
  /-- Hits are handed out in the order in which they were received. -/
  inOrder : handedOut h <+: received first h
  /-- If the end was not brought about by the caller, all hits were handed out. -/
  complete : ∀ answer, h.find? Event.ends = some (.handed answer) → handedOut h = received first h
  /-- A failure to get a page is handed out, once, and there is one at most. -/
  failures : h.filterMap Event.error? = h.filterMap Event.failure? ∧
    (h.filterMap Event.failure?).length ≤ 1
  /-- At the end the latest handle is released, once; without a handle there is no release. -/
  releases : h.filterMap Event.release? =
    if h.any Event.ends then (latestHandle? first h).toList else []

end Rules

variable {first : Wire.Page} {lease : Duration} {h : List Event}

/-- To see one thing more it has to be allowed. -/
theorem allowed_concat {e : Event}
    (allowed : ∀ past e later, h = past ++ e :: later → Allowed first lease past e)
    (next : Allowed first lease h e) :
    ∀ past e' later, h ++ [e] = past ++ e' :: later → Allowed first lease past e' := by
  intro past e' later split
  obtain rfl | ⟨later, last, rfl⟩ := List.eq_nil_or_concat later
  · obtain ⟨rfl, same⟩ := List.append_inj' split rfl
    rwa [← List.head_eq_of_cons_eq same]
  · rw [List.concat_eq_append, ← List.cons_append, ← List.append_assoc] at split
    obtain ⟨before, -⟩ := List.append_inj' split rfl
    exact allowed past e' later before

/-! ## Acts -/

/-- What is seen when a cursor closes: if it has a handle, that it is released. -/
inductive Closes (c : Cursor) : List Event → Prop
  | silent : c.handle = none → Closes c []
  | released {handle : String} (reply : Except ClientError Unit) :
      c.handle = some handle → Closes c [.called (.release handle) reply]

/-- What is seen of an act, and the cursor after it. -/
inductive Shows : Cursor → List Event → Cursor → Prop
  | hit {c : Cursor} {hit : Wire.Hit} {rest : List Wire.Hit} :
      c.hits = hit :: rest → Shows c [.handed (some (.ok hit))] (c.pop rest)
  | done {c : Cursor} :
      c.hits = [] → c.isExhausted = true → Shows c [.handed none] c
  | runsOut {c : Cursor} {es : List Event} :
      c.hits = [] → c.isExhausted = false → Closes c es →
      Shows c (es ++ [.handed none]) c.exhaust
  | page {c c' : Cursor} {handle : String} {p : Wire.Page} {es : List Event} :
      c.hits = [] → c.isExhausted = false → c.goesOn = true → c.handle = some handle →
      Shows (c.load p) es c' → Shows c (.called (.advance handle c.lease) (.ok p) :: es) c'
  | fails {c : Cursor} {handle : String} {e : ClientError} {es : List Event} :
      c.hits = [] → c.isExhausted = false → c.goesOn = true → c.handle = some handle →
      Closes c es →
      Shows c (.called (.advance handle c.lease) (.error e) :: es ++ [.handed (some (.error e))])
        c.exhaust
  | release {c : Cursor} {es : List Event} (answer : Except ClientError Unit) :
      Closes c es → Shows c (es ++ [.released answer]) c.exhaust
  | drop {c : Cursor} {es : List Event} :
      Closes c es → Shows c (es ++ [.dropped]) c.exhaust
  | dropAgain {c : Cursor} : c.isExhausted = true → Shows c [.dropped] c

section Acts

variable (t : Transport σ) (c : Cursor) (s : σ)

/-- A release shows that the cursor closes, then what the caller is told of it, which may depend on
how the release went. -/
theorem observe_release (last : Except ClientError Unit → Event) : ∃ es answer,
    Closes c es ∧
    observe t (c.release.bind fun r => .done (last r.1, r.2)) s = es ++ [last answer] ∧
    ((c.release.bind fun r => .done (last r.1, r.2)).run t s).1.2 = c.exhaust := by
  unfold release
  cases named : c.handle with
  | none => exact ⟨[], .ok (), .silent named, rfl, rfl⟩
  | some handle => exact ⟨_, (t (.release handle) s).1, .released _ named, rfl, rfl⟩

/-- Where the cursor finishes by itself, how the release went is not told. -/
theorem observe_finish (last : Event) : ∃ es, Closes c es ∧
    observe t (c.finish.bind fun c => .done (last, c)) s = es ++ [last] ∧
    ((c.finish.bind fun c => .done (last, c)).run t s).1.2 = c.exhaust := by
  obtain ⟨es, -, closes, seen, left⟩ := observe_release t c s fun _ => last
  rw [finish, Program.bind_assoc]
  exact ⟨es, closes, seen, left⟩

/-- A page that was just received shows its first hit, or that the search is over. -/
theorem shows_nextOfPage (unfinished : c.isExhausted = false) :
    let p := c.nextOfPage.bind fun r => .done (Event.handed r.1, r.2)
    Shows c (observe t p s) (p.run t s).1.2 := by
  intro p
  simp only [p, nextOfPage]
  split
  · next used => exact .hit used
  · next used =>
    obtain ⟨es, closes, seen, left⟩ := observe_finish t c s (.handed none)
    simp only [Program.bind_assoc, Program.bind]
    rw [seen, left]
    exact .runsOut used unfinished closes

theorem shows_next : Shows c (observe t (Act.next.program c) s)
    ((Act.next.program c).run t s).1.2 := by
  simp only [Act.program, next]
  split
  · next used => exact .hit used
  next used =>
  split
  · next exhausted => exact .done used exhausted
  next unfinished =>
  rw [Bool.not_eq_true] at unfinished
  split
  · obtain ⟨es, closes, seen, left⟩ := observe_finish t c s (.handed none)
    simp only [Program.bind_assoc, Program.bind]
    rw [seen, left]
    exact .runsOut used unfinished closes
  next handle open_ =>
  obtain ⟨goesOn, named⟩ : c.goesOn = true ∧ c.handle = some handle := by
    unfold advanceHandle? at open_
    split at open_
    · next goesOn => exact ⟨goesOn, open_⟩
    · cases open_
  simp only [Program.bind, observe, Program.exchanges, Program.run, List.map_cons,
    List.cons_append]
  cases reply : (t (.advance handle c.lease) s).1 with
  | ok p =>
    exact .page used unfinished goesOn named (shows_nextOfPage t (c.load p) _ unfinished)
  | error e =>
    obtain ⟨es, closes, seen, left⟩ :=
      observe_finish t c (t (.advance handle c.lease) s).2 (.handed (some (.error e)))
    simp only [Program.bind_assoc, Program.bind, observe] at seen left ⊢
    rw [seen, left]
    exact .fails used unfinished goesOn named closes

/-- An act shows one of a few things. -/
theorem shows_act (a : Act) : Shows c (observe t (a.program c) s)
    ((a.program c).run t s).1.2 := by
  cases a with
  | next => exact shows_next t c s
  | release =>
    obtain ⟨es, answer, closes, seen, left⟩ := observe_release t c s .released
    rw [Act.program, seen, left]
    exact .release answer closes
  | drop =>
    rw [Act.program, drop]
    split
    · next exhausted => exact .dropAgain exhausted
    · obtain ⟨es, closes, seen, left⟩ := observe_finish t c s .dropped
      rw [seen, left]
      exact .drop closes

end Acts

/-! ## Keeping track -/

variable {es : List Event} {c c' : Cursor}

/-- More is seen, and no page is among it. -/
theorem pagesSeen_append (no : es.filterMap Event.page? = []) :
    pagesSeen first (h ++ es) = pagesSeen first h := by
  rw [pagesSeen, List.filterMap_append, no, List.append_nil]
  rfl

/-- What closes a cursor is the release of its handle. -/
theorem Closes.seen (closes : Closes c es) :
    es.filterMap Event.page? = [] ∧ es.filterMap Event.failure? = [] ∧
      es.filterMap Event.release? = c.handle.toList ∧ es.filterMap Event.hit? = [] ∧
      es.filterMap Event.error? = [] ∧ es.any Event.ends = false := by
  cases closes with
  | silent named => simp [named]
  | released reply named =>
    simp [named, Event.page?, Event.failure?, Event.release?, Event.hit?, Event.error?, Event.ends]

/-- A cursor that is not exhausted knows what happened. -/
structure Open (first : Wire.Page) (lease : Duration) (h : List Event) (c : Cursor) : Prop where
  unfinished : c.isExhausted = false
  leased : c.lease = lease
  allowed : ∀ past e later, h = past ++ e :: later → Allowed first lease past e
  held : handedOut h ++ c.hits = received first h
  named : c.handle = latestHandle? first h
  goesOn : c.goesOn = true ↔ ∀ p ∈ pagesSeen first h, p.hits ≠ [] ∧ p.handle ≠ none
  latest : c.goesOn = true → (pagesSeen first h).getLast?.bind Wire.Page.handle = c.handle
  used : ∀ p ∈ pagesSeen first h, p.hits = [] → c.hits = []
  noFailure : h.filterMap Event.failure? = []
  noRelease : h.filterMap Event.release? = []
  noEnd : h.any Event.ends = false

/-- Nothing more comes out of a cursor that is exhausted. -/
structure Closed (first : Wire.Page) (lease : Duration) (h : List Event) (c : Cursor) : Prop where
  exhausted : c.isExhausted = true
  used : c.hits = []
  released : c.handle = none
  lawful : Lawful first lease h
  ended : h.any Event.ends = true

/-- A failure that the caller gets is an end. -/
theorem errors_of_noEnd (noEnd : h.any Event.ends = false) : h.filterMap Event.error? = [] := by
  rw [List.filterMap_eq_nil_iff]
  intro e he
  have goesOn := List.any_eq_false.1 noEnd e he
  unfold Event.error?
  split
  · simp [Event.ends] at goesOn
  · rfl

theorem Open.start (first : Wire.Page) (lease : Duration) :
    Open first lease [] (.start first lease) where
  unfinished := rfl
  leased := rfl
  allowed := by intro past e later split; simp at split
  held := by simp [handedOut, received, pagesSeen, Cursor.start, load]
  named := by
    cases named : first.handle <;> simp [latestHandle?, pagesSeen, Cursor.start, load, named]
  goesOn := by
    simp [pagesSeen, Cursor.start, load, Option.isSome_iff_ne_none]
  latest := by simp [pagesSeen, Cursor.start, load]
  used := by simp [pagesSeen, Cursor.start, load]
  noFailure := rfl
  noRelease := rfl
  noEnd := rfl

theorem Open.lawful (o : Open first lease h c) : Lawful first lease h where
  allowed := o.allowed
  inOrder := ⟨c.hits, o.held⟩
  complete := by
    intro answer ended
    have := List.find?_some ended
    have here := List.any_eq_false.1 o.noEnd _ (List.mem_of_find?_eq_some ended)
    exact absurd this here
  failures := by
    rw [o.noFailure, errors_of_noEnd o.noEnd]
    exact ⟨rfl, Nat.zero_le _⟩
  releases := by rw [o.noRelease, o.noEnd]; rfl

/-- What is seen at an end is neither a call nor a hit. -/
theorem Event.seen_of_ends {e : Event} (ends : e.ends = true) :
    e.page? = none ∧ e.failure? = none ∧ e.release? = none ∧ e.hit? = none := by
  cases e with
  | called => simp [Event.ends] at ends
  | handed answer =>
    refine ⟨rfl, rfl, rfl, ?_⟩
    rcases answer with - | ⟨error | hit⟩
    · rfl
    · rfl
    · simp [Event.ends] at ends
  | released => exact ⟨rfl, rfl, rfl, rfl⟩
  | dropped => exact ⟨rfl, rfl, rfl, rfl⟩

/-- A cursor closes by the release of its handle, and the caller sees the end. -/
theorem lawful_close {past : List Event} {last : Event}
    (allowed : ∀ before e later, past = before ++ e :: later → Allowed first lease before e)
    (inOrder : handedOut past <+: received first past)
    (named : c.handle = latestHandle? first past)
    (noRelease : past.filterMap Event.release? = [])
    (noEnd : past.any Event.ends = false) (closes : Closes c es) (ends : last.ends = true)
    (told : last.error?.toList = past.filterMap Event.failure?)
    (all : ∀ answer, last = .handed answer → handedOut past = received first past)
    (atEnd : Allowed first lease (past ++ es) last) :
    Closed first lease (past ++ es ++ [last]) c.exhaust := by
  obtain ⟨noPage, noFailure, releases, noHit, noError, goesOn⟩ := closes.seen
  obtain ⟨lastPage, lastFailure, lastRelease, lastHit⟩ := Event.seen_of_ends ends
  have pages : pagesSeen first (past ++ es ++ [last]) = pagesSeen first past := by
    rw [pagesSeen_append (by simp [lastPage]), pagesSeen_append noPage]
  have hits : handedOut (past ++ es ++ [last]) = handedOut past := by
    simp [handedOut, noHit, lastHit]
  have got : received first (past ++ es ++ [last]) = received first past := by
    rw [received, pages]
    rfl
  have failures : (past ++ es ++ [last]).filterMap Event.failure? = last.error?.toList := by
    simp [told, noFailure, lastFailure]
  have ended : (past ++ es ++ [last]).any Event.ends = true := by simp [ends]
  refine ⟨rfl, rfl, rfl, ⟨?_, ?_, ?_, ?_, ?_⟩, ended⟩
  · refine allowed_concat ?_ atEnd
    cases closes with
    | silent => rwa [List.append_nil]
    | released reply handle => exact allowed_concat allowed (named.symm.trans handle)
  · rwa [hits, got]
  · intro answer first_
    rw [hits, got]
    have open_ : (past ++ es).find? Event.ends = none := by
      rw [List.find?_eq_none]
      intro e he
      rcases List.mem_append.1 he with he | he
      · exact List.any_eq_false.1 noEnd e he
      · exact List.any_eq_false.1 goesOn e he
    rw [List.find?_append, open_, Option.none_or, List.find?_singleton, if_pos ends] at first_
    exact all answer (Option.some.inj first_)
  · rw [failures]
    constructor
    · cases told' : last.error? <;>
        simp [errors_of_noEnd noEnd, noError, told']
    · cases last.error? <;> simp
  · rw [ended, if_pos rfl, latestHandle?, pages, ← latestHandle?, ← named]
    simp [noRelease, releases, lastRelease]

namespace Open

variable {handle : String} {p : Wire.Page} {e : ClientError}

/-- A cursor hands out the hit at hand. -/
theorem hit {hit : Wire.Hit} {rest : List Wire.Hit} (o : Open first lease h c)
    (atHand : c.hits = hit :: rest) :
    Open first lease (h ++ [.handed (some (.ok hit))]) (c.pop rest) := by
  have pages : pagesSeen first (h ++ [.handed (some (.ok hit))]) = pagesSeen first h :=
    pagesSeen_append rfl
  have goesOn : ¬ Spent first h := by
    rintro (ended | ⟨p, seen, empty⟩ | ⟨-, all⟩)
    · simp [o.noEnd] at ended
    · simp [o.used p seen empty] at atHand
    · have held := o.held
      rw [all, List.append_right_eq_self, atHand] at held
      cases held
  refine ⟨o.unfinished, o.leased, ?_, ?_, ?_, ?_, ?_, ?_, ?_, ?_, ?_⟩
  · exact allowed_concat o.allowed fun spent => absurd spent goesOn
  · rw [received, pages, ← received, ← o.held, atHand]
    simp [handedOut, Event.hit?, pop]
  · rw [latestHandle?, pages]
    exact o.named
  · rw [pages]
    exact o.goesOn
  · rw [pages]
    exact o.latest
  · rw [pages]
    intro p seen empty
    simp [o.used p seen empty] at atHand
  · simp [o.noFailure, Event.failure?]
  · simp [o.noRelease, Event.release?]
  · simp [o.noEnd, Event.ends]

/-- A cursor asks for a page only if it has to. -/
theorem mayAdvance (o : Open first lease h c) (used : c.hits = []) (goesOn : c.goesOn = true)
    (named : c.handle = some handle) : MayAdvance first h handle where
  allHanded := by rw [← o.held, used, List.append_nil]
  goesOn := o.goesOn.1 goesOn
  latest := (o.latest goesOn).trans named
  noFailure := o.noFailure
  noRelease := o.noRelease
  open_ := o.noEnd

/-- A cursor receives the page that it has asked for. -/
theorem page (o : Open first lease h c) (used : c.hits = []) (goesOn : c.goesOn = true)
    (named : c.handle = some handle) :
    Open first lease (h ++ [.called (.advance handle c.lease) (.ok p)]) (c.load p) := by
  have pages : pagesSeen first (h ++ [.called (.advance handle c.lease) (.ok p)]) =
      pagesSeen first h ++ [p] := by
    simp [pagesSeen, Event.page?]
  have good := o.goesOn.1 goesOn
  refine ⟨o.unfinished, o.leased, ?_, ?_, ?_, ?_, ?_, ?_, ?_, ?_, ?_⟩
  · exact allowed_concat o.allowed ⟨o.mayAdvance used goesOn named, o.leased⟩
  · have held := o.held
    rw [used, List.append_nil] at held
    rw [received, pages, List.flatMap_append, ← received, ← held]
    simp [handedOut, Event.hit?, load]
  · rw [latestHandle?, pages, List.filterMap_append, List.getLast?_append, ← latestHandle?,
      ← o.named]
    cases given : p.handle <;> simp [load, given]
  · rw [pages, List.forall_mem_append, List.forall_mem_singleton, and_iff_right good]
    simp [load, Option.isSome_iff_ne_none]
  · rw [pages]
    intro loaded
    simp only [load, Bool.and_eq_true, Option.isSome_iff_exists] at loaded ⊢
    obtain ⟨-, given, named'⟩ := loaded
    simp [named']
  · rw [pages]
    intro q seen empty
    rcases List.mem_append.1 seen with before | now
    · exact absurd empty (good q before).1
    · rw [← List.mem_singleton.1 now]
      exact empty
  · simp [o.noFailure, Event.failure?]
  · simp [o.noRelease, Event.release?]
  · simp [o.noEnd, Event.ends]

/-- A cursor closes when the search is over or the caller gives up. -/
theorem close {last : Event} (o : Open first lease h c) (closes : Closes c es)
    (ends : last.ends = true) (noError : last.error? = none)
    (all : ∀ answer, last = .handed answer → answer = none ∧ c.hits = []) :
    Closed first lease (h ++ es ++ [last]) c.exhaust := by
  refine lawful_close o.allowed ⟨c.hits, o.held⟩ o.named o.noRelease o.noEnd closes ends ?_ ?_ ?_
  · rw [noError, o.noFailure]
    rfl
  · intro answer handed
    rw [← o.held, (all answer handed).2, List.append_nil]
  · cases last with
    | called => cases ends
    | handed answer => exact fun _ => (all answer rfl).1
    | released => exact trivial
    | dropped => exact trivial

/-- A cursor closes when it does not get the page that it has asked for. -/
theorem fails (o : Open first lease h c) (used : c.hits = []) (goesOn : c.goesOn = true)
    (named : c.handle = some handle) (closes : Closes c es) :
    Closed first lease
      (h ++ [.called (.advance handle c.lease) (.error e)] ++ es ++ [.handed (some (.error e))])
      c.exhaust := by
  have pages : pagesSeen first (h ++ [.called (.advance handle c.lease) (.error e)]) =
      pagesSeen first h := pagesSeen_append rfl
  have all : handedOut (h ++ [.called (.advance handle c.lease) (.error e)]) =
      received first (h ++ [.called (.advance handle c.lease) (.error e)]) := by
    rw [received, pages, ← received, ← o.held, used]
    simp [handedOut, Event.hit?]
  have good := o.goesOn.1 goesOn
  obtain ⟨noPage, -, -, -, -, goesOn'⟩ := closes.seen
  refine lawful_close ?_ (all ▸ List.prefix_refl _) ?_ ?_ ?_ closes rfl ?_ (fun _ _ => all) ?_
  · exact allowed_concat o.allowed ⟨o.mayAdvance used goesOn named, o.leased⟩
  · rw [latestHandle?, pages]
    exact o.named
  · simp [o.noRelease, Event.release?]
  · simp [o.noEnd, Event.ends]
  · simp [o.noFailure, Event.failure?, Event.error?]
  · rintro (ended | ⟨p, seen, empty⟩ | ⟨⟨p, seen, unnamed⟩, -⟩)
    · simp [o.noEnd, goesOn', Event.ends] at ended
    · rw [pagesSeen_append noPage, pages] at seen
      exact absurd empty (good p seen).1
    · rw [pagesSeen_append noPage, pages] at seen
      exact absurd unnamed (good p seen).2

end Open

/-- A cursor that is exhausted shows the end once more, and calls nothing. -/
theorem Closed.again {last : Event} (o : Closed first lease h c) (ends : last.ends = true)
    (noError : last.error? = none) (atEnd : ∀ answer, last = .handed answer → answer = none) :
    Closed first lease (h ++ [last]) c := by
  obtain ⟨noPage, noFailure, noRelease, noHit⟩ := Event.seen_of_ends ends
  have pages : pagesSeen first (h ++ [last]) = pagesSeen first h :=
    pagesSeen_append (by simp [noPage])
  have hits : handedOut (h ++ [last]) = handedOut h := by simp [handedOut, noHit]
  have got : received first (h ++ [last]) = received first h := by
    rw [received, pages]
    rfl
  refine ⟨o.exhausted, o.used, o.released, ⟨?_, ?_, ?_, ?_, ?_⟩, by simp [ends]⟩
  · refine allowed_concat o.lawful.allowed ?_
    cases last with
    | called => cases ends
    | handed answer => exact fun _ => atEnd answer rfl
    | released => exact trivial
    | dropped => exact trivial
  · rw [hits, got]
    exact o.lawful.inOrder
  · intro answer first_
    rw [hits, got]
    refine o.lawful.complete answer ?_
    obtain ⟨e, he, ended⟩ := List.any_eq_true.1 o.ended
    obtain ⟨earlier, found⟩ := Option.isSome_iff_exists.1 (List.find?_isSome.2 ⟨e, he, ended⟩)
    rw [List.find?_append, found, Option.some_or] at first_
    rw [found, first_]
  · simpa [noError, noFailure] using o.lawful.failures
  · have releases := o.lawful.releases
    rw [o.ended] at releases
    simpa [latestHandle?, pages, noRelease, ends] using releases

theorem Closed.closes (o : Closed first lease h c) (closes : Closes c es) :
    es = [] ∧ c.exhaust = c := by
  constructor
  · cases closes with
    | silent => rfl
    | released _ named => cases o.released.symm.trans named
  · obtain ⟨exhausted, used, released, -, -⟩ := o
    cases c
    simp_all [exhaust]

/-- A cursor is open or closed. -/
def Tracks (first : Wire.Page) (lease : Duration) (h : List Event) (c : Cursor) : Prop :=
  Open first lease h c ∨ Closed first lease h c

/-- Whether the cursor is open or closed, the caller may give up. -/
theorem Tracks.giveUp {last : Event} (tracks : Tracks first lease h c) (closes : Closes c es)
    (ends : last.ends = true) (noAnswer : ∀ answer, last ≠ .handed answer) :
    Tracks first lease (h ++ (es ++ [last])) c.exhaust := by
  have noError : last.error? = none := by
    cases last with
    | handed answer => exact absurd rfl (noAnswer answer)
    | _ => rfl
  rcases tracks with o | o
  · rw [← List.append_assoc]
    exact .inr (o.close closes ends noError fun answer handed => absurd handed (noAnswer answer))
  · obtain ⟨rfl, same⟩ := o.closes closes
    rw [same, List.nil_append]
    exact .inr (o.again ends noError fun answer handed => absurd handed (noAnswer answer))

/-- A cursor keeps track of what was seen through every act. -/
theorem Tracks.shows (tracks : Tracks first lease h c) (act : Shows c es c') :
    Tracks first lease (h ++ es) c' := by
  -- Only the first page of an act can be followed by more of the act.
  induction act generalizing h with
  | hit atHand =>
    rcases tracks with o | o
    · exact .inl (o.hit atHand)
    · cases o.used.symm.trans atHand
  | done used exhausted =>
    rcases tracks with o | o
    · cases o.unfinished.symm.trans exhausted
    · exact .inr (o.again rfl rfl fun _ handed => (Event.handed.inj handed).symm)
  | runsOut used unfinished closes =>
    rcases tracks with o | o
    · rw [← List.append_assoc]
      exact .inr (o.close closes rfl rfl fun _ handed => ⟨(Event.handed.inj handed).symm, used⟩)
    · cases o.exhausted.symm.trans unfinished
  | page used unfinished goesOn named _ ih =>
    rcases tracks with o | o
    · rw [List.append_cons]
      exact ih (.inl (o.page used goesOn named))
    · cases o.exhausted.symm.trans unfinished
  | fails used unfinished goesOn named closes =>
    rcases tracks with o | o
    · rw [List.cons_append, List.append_cons, ← List.append_assoc]
      exact .inr (o.fails used goesOn named closes)
    · cases o.exhausted.symm.trans unfinished
  | release answer closes => exact tracks.giveUp closes rfl nofun
  | drop closes => exact tracks.giveUp closes rfl nofun
  | dropAgain exhausted =>
    rcases tracks with o | o
    · cases o.unfinished.symm.trans exhausted
    · exact .inr (o.again rfl rfl nofun)

theorem Tracks.lawful (tracks : Tracks first lease h c) : Lawful first lease h := by
  rcases tracks with o | o
  · exact o.lawful
  · exact o.lawful

/-- A cursor keeps track of what is seen while a caller uses it. -/
theorem Tracks.history (t : Transport σ) (acts : List Act) (s : σ)
    (tracks : Tracks first lease h c) :
    ∃ c', Tracks first lease (h ++ history t acts c s) c' := by
  induction acts generalizing h c s with
  | nil => exact ⟨c, by rwa [Cursor.history, List.append_nil]⟩
  | cons a acts ih =>
    rw [Cursor.history, ← List.append_assoc]
    exact ih _ (tracks.shows (shows_act t c s a))

/-- Against any transport, whatever the caller does, the history of a cursor follows the rules; when
the caller lets go of the cursor, it has come to its end. -/
theorem lawful_history (t : Transport σ) (s : σ) (first : Wire.Page) (lease : Duration)
    (acts : List Act) :
    Lawful first lease (history t acts (.start first lease) s) ∧
      (history t (acts ++ [.drop]) (.start first lease) s).any Event.ends = true := by
  constructor
  · obtain ⟨c, tracks⟩ := Tracks.history t acts s (.inl (.start first lease))
    exact tracks.lawful
  · obtain ⟨c, s', more⟩ := history_append t acts [.drop] (.start first lease) s
    simp [more, history, observe, Act.program, Program.run_bind, Program.run, Event.ends]

end Cursor

end VersionedStore
