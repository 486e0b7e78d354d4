import VersionedStore.Proofs.Server.Scrolls

/-!
# What refused requests leave behind

A request that is refused leaves the documents, what searches see and the open scrolls as they are.
It does not always leave the indices as they are: a write makes its index before it is tried, and a
write of a missing document that expects a version of it is refused after that.

## Main definitions

* `Server.visible` — what can be seen of a server
* `Scrolls.Running` — no lease has run out
* `Request.guarded?` — the index of a guarded write

## Main results

* `Server.visible_of_refused` — what is left by a refused request
-/

namespace VersionedStore

open Json

/-! ## Operations that are refused -/

namespace Store

/-- What can be seen of a store: all but the number from which ids are made up. -/
def visible (s : Store) : StoreConfig × Table Index := (s.config, s.indices)

variable (s : Store) (name : String)

/-- To make an index that is there changes nothing. -/
theorem createIndex_of_hasIndex (there : s.hasIndex name = true) : s.createIndex name = s := by
  obtain ⟨ix, found⟩ := Option.isSome_iff_exists.1 there
  rw [createIndex, setIndex, indexOrEmpty, found, Option.getD_some, Table.insert_of_find? found]

/-- A document that nothing is expected of can be written to an empty index. -/
theorem put_empty (epoch : UInt64) (mode : WriteMode) (id : String) (source : Value) :
    ∃ answer, Index.empty.put epoch mode id none source = .ok answer := by
  cases mode <;> exact ⟨_, rfl⟩

variable {s name}

/-- A write that is refused has made its index, and if that was missing it has named a version. -/
theorem writeAt_refused {mode : WriteMode} {id : String} {required : Option Version}
    {source : Value} {e : StoreError}
    (refused : (s.writeAt name mode id required source).1 = .error e) :
    (s.writeAt name mode id required source).2 = s.createIndex name ∧
      (required = none → s.hasIndex name = true) := by
  cases put : (s.indexOrEmpty name).put s.config.epoch mode id required source with
  | ok answer => simp [writeAt, change, put] at refused
  | error e =>
    refine ⟨by simp only [writeAt, change, put, createIndex], ?_⟩
    rintro rfl
    by_contra missing
    have empty : s.indexOrEmpty name = .empty := by
      rw [indexOrEmpty, Option.not_isSome_iff_eq_none.1 missing, Option.getD_none]
    obtain ⟨answer, done⟩ := put_empty s.config.epoch mode id source
    rw [empty, done] at put
    cases put

/-- A delete that is refused has found its index, or has not made it. -/
theorem delete_refused {id : String} {required : Option Version} {refresh : RefreshPolicy}
    {e : StoreError} (refused : (s.delete name id required refresh).1 = .error e) :
    (s.delete name id required refresh).2 = s := by
  unfold delete at refused ⊢
  split
  · rfl
  · next ix here =>
    have there : s.hasIndex name = true := by
      unfold index at here
      split at here
      · cases here
      · next found => rw [hasIndex, Table.contains, found]; rfl
    obtain ⟨e, removed⟩ | removed := s.deleteAt_cases name id required
    · simp only [removed]
      exact s.createIndex_of_hasIndex name there
    · simp [here, removed] at refused

/-- A write that is refused has made its index if its document could be read and it names a
version. -/
theorem write_refused {id : Option String} {mode : WriteMode} {required : Option Version}
    {source : Bytes} {refresh : RefreshPolicy} {e : StoreError}
    (addressed : mode = .create ∨ id.isSome)
    (refused : (s.write name id mode.kind required source refresh).1 = .error e) :
    (s.write name id mode.kind required source refresh).2.visible =
      if required.isSome ∧ (parseSource source).toOption.isSome then (s.createIndex name).visible
      else s.visible := by
  -- An id may be made up first, which is not to be seen.
  obtain ⟨id', s', found, same⟩ : ∃ id' s', s.address mode.kind id = (.ok (mode, id'), s') ∧
      s'.visible = s.visible := by
    cases id with
    | some id => cases mode <;> exact ⟨_, _, rfl, rfl⟩
    | none =>
      obtain rfl : mode = .create := addressed.resolve_right (by simp)
      exact ⟨_, _, rfl, rfl⟩
  have made : (s'.createIndex name).visible = (s.createIndex name).visible := by
    obtain ⟨config, indices⟩ := Prod.mk.inj same
    simp only [visible, createIndex, setIndex, indexOrEmpty, config, indices]
  unfold write at refused ⊢
  simp only [found] at refused ⊢
  cases parsed : parseSource source with
  | error e => simpa [parsed, Except.toOption] using same
  | ok document =>
    simp only [parsed, Except.toOption, Option.isSome_some, and_true] at refused ⊢
    obtain ⟨answer, s'', written⟩ : ∃ answer s'',
      s'.writeAt name mode id' required document = (answer, s'') := ⟨_, _, rfl⟩
    rw [written] at refused ⊢
    cases answer with
    | ok w => simp at refused
    | error e =>
      obtain ⟨left, expects⟩ := writeAt_refused (e := e) (congrArg Prod.fst written)
      obtain rfl : s'' = s'.createIndex name := by rw [← left, written]
      simp only [made]
      split
      · rfl
      · next expected =>
        have there := expects (by simpa using expected)
        rw [← made, s'.createIndex_of_hasIndex name there, same]

end Store

/-! ## Scrolls that are not touched -/

namespace Scrolls

/-- No lease has run out. -/
def Running (r : Scrolls) : Prop := ∀ handle c, r.contexts.find? handle = some c → c.lapsed = false

variable {r : Scrolls}

theorem Running.purge (running : r.Running) : r.purge = r := by
  have all : r.contexts.filter (fun c => !c.lapsed) = r.contexts :=
    Table.filter_of_forall fun handle c found => by rw [running handle c found]; rfl
  rw [Scrolls.purge, all]

/-- Where no scroll is open under a handle, there is none to go on with. -/
theorem Running.advance_refused (running : r.Running) {handle : String} {lease : Duration}
    {e : StoreError} (refused : (r.advance handle lease).1 = .error e) :
    (r.advance handle lease).2 = r := by
  unfold advance at refused ⊢
  simp only [running.purge] at refused ⊢
  split
  · rfl
  · next found => simp [found] at refused

/-- Where nothing was released, nothing was there to be released. -/
theorem releaseAll_of_none (r : Scrolls) (handles : List String)
    (none : (r.releaseAll handles).1 = 0) : (r.releaseAll handles).2 = r := by
  induction handles generalizing r with
  | nil => rfl
  | cons handle handles ih =>
    rw [releaseAll, Nat.add_eq_zero_iff] at none
    have closed : r.contexts.find? handle = Option.none := by
      by_contra open_
      simp [release, Table.contains, Option.isSome_iff_ne_none.2 open_] at none
    have same : (r.release handle).2 = r := by rw [release, Table.erase_of_find? closed]
    rw [releaseAll]
    simp only [same] at none ⊢
    exact ih r none.2

end Scrolls

/-! ## Requests that are refused -/

/-- Whether the parameters and the body of a write can be read, and name a version. -/
def Params.guards (p : Params) (body : Bytes) : Bool :=
  match p.version, p.refreshPolicy, Store.parseSource body with
  | .ok (some _), .ok _, .ok _ => true
  | _, _, _ => false

/-- The index of a guarded write, if the write can be read. -/
def Route.guarded? (params : Params) (body : Bytes) : Route → Option String
  | put index _ =>
    if params.writeMode.toOption.isSome ∧ params.guards body then some index else none
  | create index _ => if params.guards body then some index else none
  | _ => none

/-- The index of a guarded write of a document, if the request is such a write and can be read. -/
def Request.guarded? (r : Request) : Option String :=
  r.route?.bind (Route.guarded? (Target.parse r.target).params r.body)

namespace Server

/-- What can be seen of a server: its indices, with the documents and what searches see, and its
open scrolls, but not the numbers from which names are made up. -/
def visible (s : Server) : (StoreConfig × Table Index) × Table Scroll :=
  (s.store.visible, s.scrolls.contexts)

/-- The server with an index, which is made if it is missing. -/
def withIndex (s : Server) (index : String) : Server :=
  { s with store := s.store.createIndex index }

/-- Whether an answer will be a reply that tells of no success. -/
def Refuses : Except StoreError Reply → Prop
  | .error _ => True
  | .ok reply => reply.isSuccess = false

variable {s : Server} {index : String} {params : Params} {body : Bytes}

/-- Where each result of an operation is told with success, a refusal is one of the operation. -/
theorem error_of_refuses {α : Type} {x : Except StoreError α} {reply : α → Reply}
    (success : ∀ a, (reply a).isSuccess = true) (refused : Refuses (x.map reply)) :
    ∃ e, x = .error e := by
  cases x with
  | error e => exact ⟨e, rfl⟩
  | ok a => exact absurd ((success a).symm.trans refused) (by decide)

theorem bulk_refused {name : Option String} (refused : Refuses (s.bulk name params body).1) :
    (s.bulk name params body).2.visible = s.visible := by
  unfold bulk at refused ⊢
  split
  · rfl
  · rfl
  · next actions refresh decoded policy =>
    simp only [decoded, policy] at refused
    obtain ⟨e, many⟩ := error_of_refuses (fun _ => rfl) refused
    rw [onStore]
    -- Whatever becomes of the actions, only their number is refused.
    unfold Store.bulk at many ⊢
    split
    · rfl
    · next few => simp [few] at many

theorem write_refused {id : Option String} {mode : WriteMode}
    (addressed : mode = .create ∨ id.isSome)
    (refused : Refuses (s.write index id mode params body).1) :
    (s.write index id mode params body).2.visible =
      if params.guards body then (s.withIndex index).visible else s.visible := by
  unfold write at refused ⊢
  unfold Params.guards
  cases version : params.version with
  | error e => rfl
  | ok required =>
    cases policy : params.refreshPolicy with
    | error e => cases required <;> rfl
    | ok refresh =>
      simp only [version, policy, onStore] at refused ⊢
      obtain ⟨e, error⟩ := error_of_refuses (fun w => by cases w.result <;> rfl) refused
      have left := Store.write_refused addressed error
      simp only [visible, left]
      cases required with
      | none => simp
      | some v => cases Store.parseSource body <;> simp [Except.toOption, withIndex]

theorem delete_refused {id : String} (refused : Refuses (s.delete index id params).1) :
    (s.delete index id params).2.visible = s.visible := by
  unfold delete at refused ⊢
  split
  · rfl
  · rfl
  · next required refresh version policy =>
    simp only [version, policy] at refused
    obtain ⟨e, error⟩ := error_of_refuses (fun _ => rfl) refused
    rw [onStore, Store.delete_refused error]

theorem refresh_refused
    (refused : Refuses (s.onStore (s.store.refresh index) fun _ => .ofText 200 refreshed).1) :
    (s.onStore (s.store.refresh index) fun _ => .ofText 200 refreshed).2.visible = s.visible := by
  obtain ⟨e, missing⟩ := error_of_refuses (fun _ => rfl) refused
  rw [onStore]
  unfold Store.refresh at missing ⊢
  split
  · rfl
  · next here => simp [here] at missing

theorem search_refused (refused : Refuses (s.search index params body).1) :
    (s.search index params body).2.visible = s.visible := by
  unfold search at refused ⊢
  split
  · rfl
  · next b read =>
    simp only [read] at refused ⊢
    split
    · rfl
    · next hits found =>
      simp only [found] at refused ⊢
      split
      · rfl
      · next word given =>
        simp only [given] at refused ⊢
        split
        · rfl
        · next lease leased => simp [leased, Refuses, Reply.isSuccess, Reply.ofText] at refused

theorem advance_refused (running : s.scrolls.Running) (refused : Refuses (s.advance body).1) :
    (s.advance body).2.visible = s.visible := by
  unfold advance at refused ⊢
  split
  · rfl
  · next b read =>
    simp only [read] at refused ⊢
    split
    · rfl
    · next lease leased =>
      simp only [leased] at refused
      obtain ⟨e, closed⟩ := error_of_refuses (fun _ => rfl) refused
      simp only [visible, running.advance_refused closed]

theorem clear_refused (running : s.scrolls.Running) (refused : Refuses (s.clear body).1) :
    (s.clear body).2.visible = s.visible := by
  unfold clear at refused ⊢
  split
  · rfl
  · next b read =>
    simp only [read, Refuses] at refused ⊢
    split at refused
    · next nothing =>
      have same := s.scrolls.purge.releaseAll_of_none b.handles nothing.1
      rw [running.purge] at same
      simp only [visible, Scrolls.clear, running.purge, same]
    · simp [Reply.isSuccess, Reply.ofText] at refused

/-- What a refused request leaves, whatever its route. -/
theorem run_refused (running : s.scrolls.Running) {route : Route}
    (refused : Refuses (s.run params body route).1) :
    (s.run params body route).2.visible =
      match route.guarded? params body with
      | some index => (s.withIndex index).visible
      | none => s.visible := by
  cases route with
  | bulk name => exact bulk_refused refused
  | advance => exact advance_refused running refused
  | clear => exact clear_refused running refused
  | get index id => rfl
  | put index id =>
    rw [run] at refused ⊢
    rw [Route.guarded?]
    cases mode : params.writeMode with
    | error e => rfl
    | ok mode' =>
      simp only [mode] at refused ⊢
      rw [write_refused (.inr rfl) refused]
      cases params.guards body <;> rfl
  | create index id =>
    rw [run] at refused ⊢
    rw [write_refused (.inl rfl) refused, Route.guarded?]
    cases params.guards body <;> rfl
  | delete index id => exact delete_refused refused
  | search index => exact search_refused refused
  | count index => rfl
  | refresh index => exact refresh_refused refused

theorem refuses_answer {r : Request} (refused : (s.handle r).1.isSuccess = false) :
    Refuses (s.answer r).1 := by
  rw [handle] at refused
  generalize s.answer r = answered at refused ⊢
  obtain ⟨reply, s'⟩ := answered
  cases reply with
  | error e => trivial
  | ok reply => exact refused

/-- A request that is refused leaves everything as it is, unless it is a guarded write to an index
that is missing: then the index is there afterwards, without documents. -/
theorem visible_of_refused (running : s.scrolls.Running) {r : Request}
    (refused : (s.handle r).1.isSuccess = false) :
    (s.handle r).2.visible =
        (match r.guarded? with
          | some index => (s.withIndex index).visible
          | none => s.visible) ∧
      ((s.handle r).2.visible = s.visible ↔
        ∀ index, r.guarded? = some index → s.store.hasIndex index = true) := by
  have refuses := refuses_answer refused
  have left : (s.handle r).2.visible =
      (match r.guarded? with
        | some index => (s.withIndex index).visible
        | none => s.visible) := by
    rw [handle_snd, Request.guarded?, Request.route?]
    rw [answer] at refuses ⊢
    cases route : Route.ofSegments? r.method (Target.parse r.target).segments with
    | none => rfl
    | some route =>
      simp only [route, Option.bind_some] at refuses ⊢
      exact run_refused running refuses
  refine ⟨left, ?_⟩
  rw [left]
  cases r.guarded? with
  | none => simp
  | some index =>
    simp only [Option.some.injEq, forall_eq']
    constructor
    · intro unchanged
      have indices := congrArg (fun v => v.1.2) unchanged
      simp only [visible, Store.visible, withIndex, Store.createIndex, Store.setIndex] at indices
      rw [Store.hasIndex, ← indices, Table.contains, Table.find?_insert, if_pos rfl]
      rfl
    · intro there
      rw [withIndex, Store.createIndex_of_hasIndex _ _ there]

/-- A write of a document, if it has its first version. -/
def hopeful : Request :=
  ⟨"PUT", "/things/_doc/a?if_seq_no=0&if_primary_term=1", Utf8.encode "\x7b\x7d"⟩

/-- A write to an index that is there is refused, and nothing is changed. -/
theorem visible_of_refused_hopeful :
    let s := (Server.empty {}).withIndex "things"
    (s.scrolls.Running ∧ (s.handle hopeful).1.isSuccess = false) ∧
      (s.handle hopeful).2.visible = s.visible := by
  intro s
  have running : s.scrolls.Running := fun handle c found => by cases found
  have refused : (s.handle hopeful).1.isSuccess = false := by decide +kernel
  refine ⟨⟨running, refused⟩, (visible_of_refused running refused).2.2 ?_⟩
  intro index guarded
  obtain rfl : "things" = index := Option.some.inj
    ((by decide +kernel : hopeful.guarded? = some "things").symm.trans guarded)
  decide +kernel

/-- Without the index the same write is refused too, but afterwards there is one, so that a search
that was refused before is answered. -/
theorem refused_makes_index :
    let s := Server.empty {}
    let s' := (s.handle hopeful).2
    (s.handle hopeful).1.status = 409 ∧ s.store.hasIndex "things" = false ∧
      s'.store.hasIndex "things" = true ∧
      (s.handle ⟨"GET", "/things/_search", []⟩).1.status = 404 ∧
      (s'.handle ⟨"GET", "/things/_search", []⟩).1.status = 200 := by
  decide +kernel

end Server

end VersionedStore
