import VersionedStore.Client.Repository
import VersionedStore.Proofs.Client.Cursor
import VersionedStore.Proofs.Testing.Note

/-!
# A search is a snapshot

A search that goes on hands out every document that it has to find, as it was at the time of the
search, whatever else happens to the store between the pages. It asks for one page more for each
page begun, and afterwards the server has no scroll of it.

Documents are printed by the server and read by the client. Whole numbers come through, but a
floating point number is read with several roundings, so a document may be shown with another number
than the one that the store has.

## Main results

* `Repository.search_follows` — a search puts a cursor on its first page
* `Repository.search_drained` — a search is complete, and cleans up
-/

namespace VersionedStore

open Json

namespace Repository

variable {α : Type} (r : Repository α) {config : HttpConfig} (bare : Loopback.Bare config.base)
  (s : Http.Connection Server)

include bare

/-- A search that goes on puts a cursor on its first page, with the scroll for the others. -/
theorem search_follows (named : r.config.readTarget ≠ "") {ix : Index}
    (here : s.client.store.index r.config.readTarget = .ok ix) {query : Option Value}
    (proper : ∀ v ∈ query, v.Proper ∧ v.depth ≤ 126) {q : Query}
    (valid : Query.parse (query.map Value.reread) = .ok q)
    (travels : ∀ e ∈ ix.select q, e.2.Travels) {o : SearchOptions} {lease d : Duration}
    (leased : o.lease = some lease) (accepted : s.client.lease lease.lease = .ok d)
    (positive : 0 < o.pageSize) (small : o.pageSize ≤ s.client.store.config.maxPage) :
    ∃ cursor opened,
      (r.search query o).run (Loopback.transport config) s = (.ok cursor, opened) ∧
      cursor.total = .exact (UInt64.ofNat (ix.select q).length) ∧ cursor.lease = lease ∧
      cursor.Follows opened.client r.config.readTarget s.client.scrolls.named.next
        (.exact (UInt64.ofNat (ix.select q).length)) o.pageSize.toNat
        ((ix.select q).take o.pageSize.toNat) ((ix.select q).drop o.pageSize.toNat) ∧
      opened.client.lease lease.lease = .ok d ∧
      Scrolls.Beside s.client.scrolls.named.next s.client.scrolls
        opened.client.scrolls := by
  have reply := Loopback.transport_search bare s named here proper valid
    (UInt32.pos_iff_ne_zero.1 positive) small accepted travels
  refine ⟨_, _, by rw [search, leased, Program.run, reply]; rfl, rfl, ?_, ?_, ?_, ?_⟩
  · rw [SearchOptions.cursorLease, leased]
    rfl
  · refine ⟨rfl, rfl, rfl, ?_, ?_, ?_, ?_⟩
    · simp only [Cursor.start, Cursor.load, List.isEmpty_map, Option.isSome_some, Bool.and_true]
    · have opened := s.client.scrolls.holds_start
        ((ix.select q).map (Store.hit r.config.readTarget true)) o.pageSize.toNat
        (Server.ne_zero_of_lease accepted)
      rwa [List.length_map, ← List.map_drop] at opened
    · intro empty
      have size : o.pageSize.toNat ≠ 0 := (UInt32.lt_iff_toNat_lt.1 positive).ne'
      rw [(List.take_eq_nil_iff.1 empty).resolve_left size, List.drop_nil]
    · exact fun e he => travels e (List.mem_of_mem_drop he)
  · rwa [Server.lease_eq rfl]
  · exact s.client.scrolls.beside_start _ _ _

/-- A search that goes on is a complete snapshot, and it cleans up. The cursor hands out each
document that the search has to find once, in order of the ids, as it was at the time of the search,
whatever others do between the pages. The documents are those that match the query as the server
reads it, and they are shown as a client reads them: both are printed and read on the way. The total
and a count tell their number; for each page begun the next one is asked for, and the scroll is
released, so that afterwards the server has those scrolls that it had before. The hits can be taken
one by one or collected. -/
theorem search_drained (sent : s.client.store.Sent) (named : r.config.readTarget ≠ "")
    {ix : Index} (here : s.client.store.index r.config.readTarget = .ok ix)
    {query : Option Value} (proper : ∀ v ∈ query, v.Proper ∧ v.depth ≤ 120)
    {asked : Query} (valid : Query.parse query = .ok asked)
    (documents : ∀ id d, ix.published.find? id = some d → d.source.depth ≤ 120)
    {o : SearchOptions} {lease d : Duration} (leased : o.lease = some lease)
    (accepted : s.client.lease lease.lease = .ok d)
    (positive : 0 < o.pageSize) (small : o.pageSize ≤ s.client.store.config.maxPage)
    {others : Nat → List Request} (apart : ∀ k, ∀ request ∈ others k, request.Apart) :
    ∃ (q : Query) (found : List (String × Document)) (cursor : Cursor)
      (opened : Http.Connection Server) (handle : String),
      Query.parse (query.map Value.reread) = .ok q ∧ ix.Finds q found ∧
      ((r.count query).run (Loopback.transport config) s).1 =
        .ok (UInt64.ofNat found.length) ∧
      (r.search query o).run (Loopback.transport config) s = (.ok cursor, opened) ∧
      cursor.total = .exact (UInt64.ofNat found.length) ∧
      ∀ fuel > found.length,
        let t := Loopback.amid config others
        let drained := cursor.take fuel
        (drained.run t (0, opened)).1.1 = found.map (.ok ∘ .showing) ∧
          drained.calls t (0, opened) =
            List.replicate ((found.length + o.pageSize.toNat - 1) / o.pageSize.toNat)
              (.advance handle lease) ++ [.release handle] ∧
          (∀ other, (drained.run t (0, opened)).2.2.client.scrolls.contexts.find? other =
            if other = handle then none else s.client.scrolls.purge.contexts.find? other) ∧
          (cursor.collect fuel).run t (0, opened) =
            ((.ok (found.map .showing), (drained.run t (0, opened)).1.2),
              (drained.run t (0, opened)).2) ∧
          (cursor.collect fuel).calls t (0, opened) = drained.calls t (0, opened) := by
  -- The messages wrap what they carry into a few levels of their own.
  have deep : ∀ v ∈ query, v.Proper ∧ v.depth ≤ 126 := fun v hv =>
    ⟨(proper v hv).1, (proper v hv).2.trans (by decide)⟩
  obtain ⟨q, reread⟩ := Query.parse_reread valid
  have finds := ix.finds_select q
  have travels := sent.travels here finds fun id d found => (documents id d found).trans (by decide)
  obtain ⟨cursor, opened, searched, total, same, follows, leased', beside⟩ :=
    r.search_follows bare s named here deep reread travels leased accepted positive small
  refine ⟨q, ix.select q, cursor, opened, s.client.scrolls.named.next, reread, finds, ?_,
    searched, total, ?_⟩
  · rw [count, Program.ask, Program.run,
      Loopback.transport_count bare s named here deep reread]
    rfl
  · intro fuel enough
    have size : 0 < o.pageSize.toNat := UInt32.lt_iff_toNat_lt.1 positive
    obtain ⟨extra, rfl⟩ : ∃ extra, fuel = (ix.select q).length + extra + 1 :=
      ⟨fuel - (ix.select q).length - 1, by omega⟩
    have drained := follows.drained bare apart (Server.ne_zero_of_lease accepted) size
      (same ▸ leased') 0 extra
    rw [← List.length_append, List.take_append_drop, Cursor.pagesToCome_split size, same] at drained
    refine ⟨drained.1, drained.2.1, fun other => ?_,
      Cursor.collect_of_take (drained.1.trans (List.map_map ..).symm)⟩
    rw [drained.2.2 other]
    split
    · rfl
    · next elsewhere => exact beside other elsewhere

omit bare

/-- The notes of an index. -/
def notesOf (index : String) : Repository Note := ⟨Note.codec, { index }⟩

/-- The address of a server. -/
def nearby : HttpConfig := ⟨"http://a", HttpConfig.standardTimeout⟩

/-- A server with two notes that searches see. -/
def shelf : Server :=
  let s := ((Store.empty {}).writeAt "b" .index "c" none (Note.mk "d" 5).value).2
  let s := (s.writeAt "b" .index "e" none (Note.mk "f" 6).value).2
  ⟨s.publish "b", .empty⟩

/-- The notes of the server. -/
def shelved : List (String × Document) :=
  [("c", ⟨⟨1, 0⟩, (Note.mk "d" 5).value⟩), ("e", ⟨⟨1, 1⟩, (Note.mk "f" 6).value⟩)]

private theorem index_shelf :
    ∃ ix, shelf.store.index "b" = .ok ix ∧ ix.published.toList = shelved := ⟨_, rfl, rfl⟩

private theorem notes_shelved : ∀ e ∈ shelved, ∃ n : Note, e.2.source = n.value := by
  simp [shelved]

private theorem sent_shelf : shelf.store.Sent :=
  (((Store.reaches_writeAt _ _ _ _ _ (Note.parseSource_encode ⟨"d", 5⟩)).trans
    (Store.reaches_writeAt _ _ _ _ _ (Note.parseSource_encode ⟨"f", 6⟩))).trans
    (.publish _ _)).sent (Store.sent_empty {})

/-- Another client deletes a note and refreshes the index. -/
def tidying : List Request := [⟨"DELETE", "/b/_doc/e", []⟩, ⟨"POST", "/b/_refresh", []⟩]

private theorem apart_tidying : ∀ request ∈ tidying, request.Apart := by
  intro request h
  have routes : ∀ r ∈ tidying, r.route? = some (.delete "b" "e") ∨
      r.route? = some (.refresh "b") := by decide +kernel
  rw [Request.Apart]
  obtain route | route := routes request h <;> rw [route] <;> trivial

/-- Both notes are found, one on each page, although one of them is deleted before the second page
is asked for. -/
theorem search_drained_notes :
    (Loopback.Bare nearby.base ∧ shelf.store.Sent ∧ (∀ request ∈ tidying, request.Apart)) ∧
      ∃ cursor opened handle,
        ((notesOf "b").search none (.scrolling 1)).run (Loopback.transport nearby) ⟨shelf, none⟩ =
          (.ok cursor, opened) ∧
        cursor.total = .exact 2 ∧
        let t := Loopback.amid nearby fun _ => tidying
        let drained := cursor.take 3
        (drained.run t (0, opened)).1.1 =
            [.ok ⟨"c", some ⟨1, 0⟩, (Note.mk "d" 5).value.write⟩,
              .ok ⟨"e", some ⟨1, 1⟩, (Note.mk "f" 6).value.write⟩] ∧
          drained.calls t (0, opened) =
            [.advance handle SearchOptions.standardLease,
              .advance handle SearchOptions.standardLease, .release handle] ∧
          (drained.run t (0, opened)).2.2.client.scrolls.contexts.find? handle = none := by
  have bare : Loopback.Bare nearby.base := ⟨"a".toList, by decide +kernel, by decide⟩
  obtain ⟨ix, here, published⟩ := index_shelf
  have shallow : ∀ id d, ix.published.find? id = some d → d.source.depth ≤ 120 := by
    intro id d found
    rw [← Table.mem_toList_iff, published] at found
    obtain ⟨n, hn⟩ := notes_shelved _ found
    simp only at hn
    simp [hn, Note.value, Value.depth, Value.membersDepth]
  have everything : ∀ v ∈ (none : Option Value), v.Proper ∧ v.depth ≤ 120 :=
    fun v none => absurd none (Option.not_mem_none v)
  have leased : (SearchOptions.scrolling 1).lease = some SearchOptions.standardLease := rfl
  have accepted : shelf.lease SearchOptions.standardLease.lease =
      .ok SearchOptions.standardLease := by decide +kernel
  have apart : ∀ k : Nat, ∀ request ∈ (fun _ => tidying) k, request.Apart := fun _ => apart_tidying
  obtain ⟨q, found, cursor, opened, handle, parsed, finds, -, searched, total, drained⟩ :=
    search_drained (notesOf "b") bare ⟨shelf, none⟩ sent_shelf (by decide) here everything rfl
      shallow leased accepted (by decide) (by decide) apart
  obtain rfl : q = .all := (Except.ok.inj parsed).symm
  obtain rfl : found = shelved := by
    rw [finds.eq_select, Index.select, published]
    rfl
  obtain ⟨results, calls, left, -⟩ := drained 3 (by decide)
  refine ⟨⟨bare, sent_shelf, apart_tidying⟩, cursor, opened, handle, searched, total, ?_, calls, ?_⟩
  · simp only [results, shelved, List.map_cons, List.map_nil, Function.comp_apply, Wire.Hit.showing,
      Note.reread_value]
  · rw [left handle, if_pos rfl]

/-- A server with a document whose number is printed and read as another one. -/
def measured : Server :=
  (Server.empty {}).after
    [⟨"PUT", "/b/_doc/c?refresh=true", Utf8.encode "\x7b\"x\":7263450810061301e32\x7d"⟩]

/-- The first hits of a search with one hit on a page, if there is such a search. -/
def firstHits (n : Nat) (index : String) (s : Server) : Option (List Cursor.Result) :=
  let searched := ((notesOf index).search none (.scrolling 1)).run (Loopback.transport nearby)
    ⟨s, none⟩
  searched.1.toOption.map fun cursor =>
    ((cursor.take n).run (Loopback.transport nearby) searched.2).1.1

/-- A search does not always show the source that a document has, and it does not reach every index:
one without a name is there, but it has no address. -/
theorem search_not_verbatim :
    (measured.store.indexOrEmpty "b").published.toList.map (fun e => (e.1, e.2.source.write)) =
        [("c", Utf8.encode "\x7b\"x\":7.263450810061302e+47\x7d")] ∧
      firstHits 2 "b" measured =
        some [.ok ⟨"c", some ⟨1, 0⟩, Utf8.encode "\x7b\"x\":7.2634508100613025e+47\x7d"⟩] ∧
      (measured.store.createIndex "").hasIndex "" ∧
      firstHits 1 "" ⟨measured.store.createIndex "", .empty⟩ = none := by
  decide +kernel

end Repository

end VersionedStore
