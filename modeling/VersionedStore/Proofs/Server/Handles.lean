import VersionedStore.Proofs.Server.Scrolls

/-!
# Handles of open scrolls

The handles of open scrolls were made up one after the other, so the next one is not among them.
How many scrolls are open is told by what is found under the handles.

## Main definitions

* `Scrolls.Numbered` — all handles were made up
* `Scrolls.With`, `Scrolls.Without` — the scroll of a handle is open, or gone, beside all others

## Main results

* `Server.numbered_after` — the handles of a server are numbered, whatever is sent to it
* `Scrolls.Numbered.fresh` — the next handle is new
* `Scrolls.openCount_of_with`, `Scrolls.openCount_of_without` — one more scroll is open than before,
  or as many
-/

namespace VersionedStore

namespace Scrolls

/-- Every open scroll has one of the handles that were made up. -/
def Numbered (r : Scrolls) : Prop :=
  ∀ handle, r.contexts.find? handle ≠ none → ∃ k < r.named.given, handle = r.named.supply.name k

theorem numbered_empty (handles : NameSupply) : (empty handles).Numbered :=
  fun _ found => absurd rfl found

variable {r r' : Scrolls} {handle : String}

namespace Numbered

theorem purge (h : r.Numbered) : r.purge.Numbered := by
  intro handle found
  apply h handle
  intro missing
  rw [Scrolls.purge, Table.find?_filter, missing] at found
  exact found rfl

theorem start (h : r.Numbered) (hits : List Wire.RawHit) (pageSize : Nat) (lease : Duration) :
    (r.start hits pageSize lease).2.Numbered := by
  intro handle found
  simp only [Scrolls.start, Table.find?_insert] at found ⊢
  split at found
  · next same => exact ⟨r.named.given, Nat.lt_succ_self _, same⟩
  · obtain ⟨k, before, same⟩ := h.purge handle found
    exact ⟨k, Nat.lt_succ_of_lt before, same⟩

theorem advance (h : r.Numbered) (handle : String) (lease : Duration) :
    (r.advance handle lease).2.Numbered := by
  unfold Scrolls.advance
  simp only
  split
  · exact h.purge
  · next c open_ =>
    intro other found
    rw [Table.find?_insert] at found
    split at found
    · next same =>
      rw [same]
      exact h.purge handle (by rw [open_]; exact Option.some_ne_none c)
    · exact h.purge other found

theorem releaseAll (h : r.Numbered) (handles : List String) : (r.releaseAll handles).2.Numbered := by
  induction handles generalizing r with
  | nil => exact h
  | cons handle handles ih =>
    apply ih
    intro other found
    rw [release, Table.find?_erase] at found
    split at found
    · exact absurd rfl found
    · exact h other found

/-- The next handle is not among those of open scrolls. -/
theorem fresh (h : r.Numbered) : r.contexts.find? r.named.next = none := by
  by_contra found
  obtain ⟨k, before, same⟩ := h _ found
  exact Nat.ne_of_lt before (r.named.supply.distinct same).symm

end Numbered

/-! ## Counting -/

/-- Where the same scrolls are found, as many are open. -/
theorem openCount_eq (same : ∀ other, r'.purge.contexts.find? other = r.purge.contexts.find? other) :
    r'.openCount = r.openCount := by
  rw [openCount, Table.ext_find? same, openCount]

/-- A scroll is open under a handle, and all that has not lapsed under others is the same. -/
structure With (handle : String) (r r' : Scrolls) : Prop where
  beside : Beside handle r r'
  isOpen : r'.purge.contexts.find? handle ≠ none

/-- With a scroll under a new handle, one more is open. -/
theorem openCount_of_with (h : With handle r r') (new : r.purge.contexts.find? handle = none) :
    r'.openCount = r.openCount + 1 := by
  obtain ⟨c, found⟩ := Option.ne_none_iff_exists'.1 h.isOpen
  have contexts : r'.purge.contexts = r.purge.contexts.insert handle c := by
    apply Table.ext_find?
    intro other
    rw [Table.find?_insert]
    split
    · next same => rw [same, found]
    · next elsewhere => exact h.beside other elsewhere
  rw [openCount, contexts, Table.size_insert new, openCount]

/-- Nothing is left under a handle, and all that has not lapsed under others is the same. -/
def Without (handle : String) (r r' : Scrolls) : Prop :=
  ∀ other, r'.contexts.find? other = if other = handle then none else r.purge.contexts.find? other

/-- Without the scroll of a handle that was new, as many are open as before. -/
theorem openCount_of_without (without : Without handle r r')
    (new : r.purge.contexts.find? handle = none) : r'.openCount = r.openCount := by
  apply openCount_eq
  intro other
  have left : r'.contexts.find? other = r.purge.contexts.find? other := by
    rw [without other]
    split
    · next same => rw [same, new]
    · rfl
  -- What has not lapsed is kept when the lapsed are dropped once more.
  simp only [Scrolls.purge, Table.find?_filter] at left ⊢
  rw [left, Option.filter_filter]
  simp only [Bool.and_self]

end Scrolls

namespace Server

variable (s : Server)

/-- A request opens a scroll, asks for its next page, releases scrolls, or leaves all scrolls as
they are. -/
theorem scrolls_handle_cases (r : Request) :
    let after := (s.handle r).2.scrolls
    after = s.scrolls ∨ (∃ hits pageSize lease, after = (s.scrolls.start hits pageSize lease).2) ∨
      (∃ handle lease, after = (s.scrolls.advance handle lease).2) ∨
      ∃ handles, after = (s.scrolls.clear handles).2 := by
  intro after
  by_cases apart : r.Apart
  · exact .inl (s.scrolls_handle apart)
  rw [Request.Apart, Request.route?] at apart
  simp only [after, handle_snd, answer]
  cases found : Route.ofSegments? r.method (Target.parse r.target).segments with
  | none => simp [found] at apart
  | some route =>
    simp only [found] at apart ⊢
    cases route with
    | search index =>
      rw [run]
      unfold search
      split
      · exact .inl rfl
      split
      · exact .inl rfl
      split
      · exact .inl rfl
      split
      · exact .inl rfl
      · exact .inr (.inl ⟨_, _, _, rfl⟩)
    | advance =>
      rw [run]
      unfold advance
      split
      · exact .inl rfl
      split
      · exact .inl rfl
      · exact .inr (.inr (.inl ⟨_, _, rfl⟩))
    | clear =>
      rw [run]
      unfold clear
      split
      · exact .inl rfl
      · exact .inr (.inr (.inr ⟨_, rfl⟩))
    | bulk | get | put | create | delete | count | refresh => exact absurd trivial apart

variable {s}

theorem numbered_handle (h : s.scrolls.Numbered) (r : Request) : (s.handle r).2.scrolls.Numbered := by
  rcases s.scrolls_handle_cases r with same | ⟨_, _, _, same⟩ | ⟨_, _, same⟩ | ⟨_, same⟩ <;> rw [same]
  · exact h
  · exact h.start _ _ _
  · exact h.advance _ _
  · exact h.purge.releaseAll _

/-- Whatever is sent to a server, the handles of its scrolls are numbered. -/
theorem numbered_after (h : s.scrolls.Numbered) (requests : List Request) :
    (s.after requests).scrolls.Numbered := by
  induction requests generalizing s with
  | nil => exact h
  | cons r requests ih => exact ih (numbered_handle h r)

end Server

end VersionedStore
