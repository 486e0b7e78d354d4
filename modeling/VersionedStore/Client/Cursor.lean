import VersionedStore.Client.Program

/-!
# Cursors

A cursor walks over the hits of a search. When the hits of a page are used up it asks for the
next page, as long as the last page had hits and a handle; then it is exhausted and releases
the last handle that it was given, once. A failure to get a page is handed out once and
exhausts it too.

## Main definitions

* `Cursor` — the hits at hand, the handle, and what was seen so far
* `Cursor.next` — the next hit
* `Cursor.release`, `Cursor.drop` — the end before the last hit
* `Cursor.take` — the next hits up to a number
-/

namespace VersionedStore

/-- A cursor. -/
structure Cursor where
  /-- The hits at hand. -/
  hits : List Wire.Hit
  /-- The last handle, until it is released. -/
  handle : Option String
  /-- Whether the last page had hits and a handle. -/
  goesOn : Bool
  /-- Whether nothing more is handed out. -/
  isExhausted : Bool
  /-- The total that the first page told. -/
  total : Wire.Total
  pages : Nat
  /-- The number of hits that were handed out. -/
  yielded : Nat
  /-- The lease that every page asks for. -/
  lease : Duration
deriving DecidableEq

/-- What a cursor hands out. -/
abbrev Cursor.Result : Type := Except ClientError Wire.Hit

namespace Cursor

/-- The cursor with a new page at hand. A page without a handle keeps the one before. -/
def load (c : Cursor) (p : Wire.Page) : Cursor :=
  { c with
    hits := p.hits
    handle := p.handle.or c.handle
    -- A page without hits is the last one, even if it has a handle.
    goesOn := !p.hits.isEmpty && p.handle.isSome
    pages := c.pages + 1 }

/-- The cursor over the first page of a search. -/
def start (first : Wire.Page) (lease : Duration) : Cursor :=
  { hits := [], handle := none, goesOn := false, isExhausted := false, total := first.total,
    pages := 0, yielded := 0, lease : Cursor }.load first

/-- The cursor when nothing more is handed out. -/
def exhaust (c : Cursor) : Cursor := { c with hits := [], handle := none, isExhausted := true }

/-- Exhausts a cursor and releases its handle. -/
def release (c : Cursor) : Program (Except ClientError Unit × Cursor) :=
  match c.handle with
  | none => .done (.ok (), c.exhaust)
  | some h => .call (.release h) fun r => .done (r, c.exhaust)

/-- Exhausts a cursor; how the release went does not matter. -/
def finish (c : Cursor) : Program Cursor := c.release.bind fun r => .done r.2

/-- Lets go of a cursor. -/
def drop (c : Cursor) : Program Cursor := if c.isExhausted then .done c else c.finish

/-- The cursor after the first of the hits at hand. -/
def pop (c : Cursor) (rest : List Wire.Hit) : Cursor :=
  { c with hits := rest, yielded := c.yielded + 1 }

/-- The handle to go on with. -/
def advanceHandle? (c : Cursor) : Option String := if c.goesOn then c.handle else none

/-- The next hit of a page, or the end of the search. -/
def nextOfPage (c : Cursor) : Program (Option Result × Cursor) :=
  match c.hits with
  | hit :: rest => .done (some (.ok hit), c.pop rest)
  | [] => c.finish.bind fun c => .done (none, c)

/-- The next hit; nothing at the end. -/
def next (c : Cursor) : Program (Option Result × Cursor) :=
  match c.hits with
  | hit :: rest => .done (some (.ok hit), c.pop rest)
  | [] =>
    if c.isExhausted then .done (none, c)
    else
      match c.advanceHandle? with
      | none => c.finish.bind fun c => .done (none, c)
      | some h =>
        .call (.advance h c.lease) fun
          | .ok p => (c.load p).nextOfPage
          -- A failure is handed out once; after it the cursor is at its end.
          | .error e => c.finish.bind fun c => .done (some (.error e), c)

/-- The next hits, at most `n` of them. -/
def take : (n : Nat) → Cursor → Program (List Result × Cursor)
  | 0, c => .done ([], c)
  | n + 1, c =>
    c.next.bind fun
      | (none, c) => .done ([], c)
      | (some r, c) => (take n c).bind fun rest => .done (r :: rest.1, rest.2)

/-- The next hits up to the first failure, at most `n` of them. -/
def collect : (n : Nat) → Cursor → Program (Except ClientError (List Wire.Hit) × Cursor)
  | 0, c => .done (.ok [], c)
  | n + 1, c =>
    c.next.bind fun
      | (none, c) => .done (.ok [], c)
      | (some (.error e), c) => .done (.error e, c)
      | (some (.ok hit), c) =>
        (collect n c).bind fun rest => .done (rest.1.map (hit :: ·), rest.2)

end Cursor

end VersionedStore
