import VersionedStore.Store.Basic

/-!
# Open scrolls

A search that goes on is frozen when it is opened: its scroll holds the hits that are still
to come. Every page renews the lease. A lease of no time is over at the next look at the
scrolls; how long another lease lasts is not told here, so it does not run out. That the clock can
tell the ends of the leases is taken for granted here, and left open in `Server.Clock`.

## Main definitions

* `Scroll` — the hits to come, the total and the size of the pages
* `Scrolls` — the open scrolls by handle
* `Scrolls.start`, `Scrolls.advance`, `Scrolls.clear` — opening, going on, releasing
-/

namespace VersionedStore

/-- A search that goes on. -/
structure Scroll where
  /-- The hits that are still to come. -/
  remaining : List Wire.RawHit
  /-- The total of the search. -/
  total : Wire.Total
  /-- The number of hits on a page. -/
  pageSize : Nat
  /-- Whether the lease was for no time. -/
  lapsed : Bool

namespace Scroll

/-- The hits of the next page. -/
def page (c : Scroll) : List Wire.RawHit := c.remaining.take c.pageSize

/-- The scroll after the next page. -/
def rest (c : Scroll) : Scroll := { c with remaining := c.remaining.drop c.pageSize }

/-- The scroll with a new lease. -/
def renew (c : Scroll) (lease : Duration) : Scroll := { c with lapsed := lease = .zero }

end Scroll

/-- The open scrolls by handle, and the handles that are made up. -/
structure Scrolls where
  /-- The scrolls. -/
  contexts : Table Scroll
  /-- The handles that are made up. -/
  named : Names

namespace Scrolls

/-- No scrolls. -/
def empty (handles : NameSupply := .cursors) : Scrolls := ⟨.empty, .start handles⟩

/-- Drops the scrolls whose lease is over. -/
def purge (r : Scrolls) : Scrolls := { r with contexts := r.contexts.filter fun c => !c.lapsed }

/-- Opens a scroll over some hits; the answer is its first page. The clock must be able to tell the
end of the lease, otherwise nothing is opened and nothing is answered; `Server.serve` tells that. -/
def start (r : Scrolls) (hits : List Wire.RawHit) (pageSize : Nat) (lease : Duration) :
    Wire.SearchReply × Scrolls :=
  let total := Wire.Total.exact (UInt64.ofNat hits.length)
  let opened : Scroll := ⟨hits, total, pageSize, lease = .zero⟩
  let handle := r.named.next
  -- The handle is told even if the first page has all hits.
  (⟨some handle, 0, total, opened.page⟩,
    ⟨r.purge.contexts.insert handle opened.rest, r.named.rest⟩)

/-- The next page of a scroll, whose lease is renewed. After the last hit pages are empty. If the
scroll is open, the clock must be able to tell the end of the lease, otherwise no page is taken and
nothing is answered; `Server.serve` tells that. -/
def advance (r : Scrolls) (handle : String) (lease : Duration) :
    Except StoreError Wire.SearchReply × Scrolls :=
  -- A lease for no time is over by the next request.
  let r := r.purge
  match r.contexts.find? handle with
  | none => (.error (.cursorMissing handle), r)
  | some c =>
    (.ok ⟨some handle, 0, c.total, c.page⟩,
      { r with contexts := r.contexts.insert handle (c.rest.renew lease) })

/-- Releases the scroll of a handle; also whether there was one. -/
def release (r : Scrolls) (handle : String) : Bool × Scrolls :=
  (r.contexts.contains handle, { r with contexts := r.contexts.erase handle })

/-- Releases the scrolls of some handles; also how many there were. -/
def releaseAll (r : Scrolls) : List String → Nat × Scrolls
  | [] => (0, r)
  | h :: hs =>
    let first := r.release h
    let others := first.2.releaseAll hs
    ((if first.1 then 1 else 0) + others.1, others.2)

/-- Drops the scrolls whose lease is over and releases those of some handles. -/
def clear (r : Scrolls) (handles : List String) : Nat × Scrolls := r.purge.releaseAll handles

/-- The number of scrolls whose lease is not over. -/
def openCount (r : Scrolls) : Nat := r.purge.contexts.size

end Scrolls

end VersionedStore
