import VersionedStore.Proofs.Store.Steps
import VersionedStore.Server.Basic

/-!
# What requests do to the store

A request that writes, deletes or publishes does one operation of the store, if it can be read;
every other request leaves the store as it is. So the requests to a server make a run of its store.

## Main definitions

* `Request.operation?` — the operation of a request
* `Server.after` — a server after some requests

## Main results

* `Server.store_handle_eq`, `Server.store_after_eq` — the store after one request, and after some
* `Server.evolves_handle_get` — a request to read leaves all documents as they are
-/

namespace VersionedStore

/-! ## Operations of requests -/

namespace Route

/-- The operation of a route, if the parameters and the body can be read. -/
def operation? (params : Params) (body : Bytes) : Route → Option Operation
  | bulk index => do
    let actions ← (Bulk.decode body).toOption
    let policy ← params.refreshPolicy.toOption
    return .bulk index actions policy
  | put index id => do
    let mode ← params.writeMode.toOption
    let required ← params.version.toOption
    let policy ← params.refreshPolicy.toOption
    return .write index (some id) mode.kind required body policy
  | create index id => do
    let required ← params.version.toOption
    let policy ← params.refreshPolicy.toOption
    return .write index id .create required body policy
  | delete index id => do
    let required ← params.version.toOption
    let policy ← params.refreshPolicy.toOption
    return .delete index id required policy
  | refresh index => some (.refresh index)
  | _ => none

/-- Whether a route leaves the documents as they are. -/
def reads : Route → Bool
  | bulk _ | put .. | create .. | delete .. => false
  | _ => true

theorem reads_of_get {segments : List String} {route : Route}
    (h : ofSegments? "GET" segments = some route) : route.reads = true := by
  unfold ofSegments? at h
  split at h
  · simp at h
  · unfold ofPair? at h
    repeat' split at h
    all_goals first
      | (obtain rfl := Option.some.inj h; rfl)
      | simp_all
  · unfold ofTriple? at h
    repeat' split at h
    all_goals first
      | (obtain rfl := Option.some.inj h; rfl)
      | simp_all
  · simp at h

/-- What leaves the documents as they are does nothing, or publishes an index. -/
theorem operation?_of_reads {route : Route} (h : route.reads = true) (params : Params)
    (body : Bytes) : route.operation? params body = none ∨
      ∃ index, route.operation? params body = some (.refresh index) := by
  cases route with
  | bulk | put | create | delete => cases h
  | advance | clear | get | search | count => exact .inl rfl
  | refresh index => exact .inr ⟨index, rfl⟩

end Route

namespace Request

/-- The operation of a request, if there is one and the request can be read. -/
def operation? (r : Request) : Option Operation :=
  r.route?.bind (Route.operation? (Target.parse r.target).params r.body)

end Request

namespace Server

variable (s : Server) (params : Params) (body : Bytes)

theorem store_search (index : String) : (s.search index params body).2.store = s.store := by
  unfold search
  repeat' split
  all_goals rfl

theorem store_advance : (s.advance body).2.store = s.store := by
  unfold advance
  repeat' split
  all_goals rfl

theorem store_clear : (s.clear body).2.store = s.store := by
  unfold clear
  repeat' split
  all_goals rfl

theorem store_run (route : Route) : (s.run params body route).2.store =
    (s.store.executeAll (route.operation? params body).toList).2 := by
  cases route with
  | bulk index =>
    rw [run, bulk, Route.operation?]
    cases Bulk.decode body <;> cases params.refreshPolicy <;> rfl
  -- A scroll lives beside the store, so it may change while the store does not.
  | advance => rw [run, store_advance]; rfl
  | clear => rw [run, store_clear]; rfl
  | get index id => rfl
  | put index id =>
    rw [run, Route.operation?]
    cases params.writeMode with
    | error e => rfl
    | ok mode =>
      simp only [write]
      cases params.version <;> cases params.refreshPolicy <;> rfl
  | create index id =>
    rw [run, write, Route.operation?]
    cases params.version <;> cases params.refreshPolicy <;> rfl
  | delete index id =>
    rw [run, delete, Route.operation?]
    cases params.version <;> cases params.refreshPolicy <;> rfl
  | search index => rw [run, store_search]; rfl
  | count index => rfl
  | refresh index => rfl

/-- An answer is only turned into a reply. -/
theorem handle_snd (r : Request) : (s.handle r).2 = (s.answer r).2 := by
  rw [handle]
  obtain ⟨reply, s'⟩ := s.answer r
  cases reply <;> rfl

/-- What a request does to the store is its operation. -/
theorem store_handle_eq (r : Request) :
    (s.handle r).2.store = (s.store.executeAll r.operation?.toList).2 := by
  rw [handle_snd, answer, Request.operation?, Request.route?]
  cases found : Route.ofSegments? r.method (Target.parse r.target).segments with
  | none => rfl
  | some route => exact s.store_run _ _ route

/-- A request makes the store evolve. -/
theorem evolves_handle (r : Request) : ∃ log, s.store.Evolves log (s.handle r).2.store := by
  rw [store_handle_eq]
  exact ⟨_, (s.store.reaches_executeAll _).evolves⟩

/-- A request to read leaves all documents as they are. -/
theorem evolves_handle_get (target : String) :
    s.store.Evolves [] (s.handle ⟨"GET", target, body⟩).2.store := by
  rw [store_handle_eq, Request.operation?]
  cases found : Request.route? ⟨"GET", target, body⟩ with
  | none => exact .refl _
  | some route =>
    rw [Option.bind_some]
    obtain nothing | ⟨index, published⟩ :=
      Route.operation?_of_reads (Route.reads_of_get found) (Target.parse target).params body
    · rw [nothing]
      exact .refl _
    · rw [published]
      exact (s.store.reaches_refresh index).evolves

/-! ## Several requests -/

/-- A server after some requests. -/
def after (s : Server) (requests : List Request) : Server :=
  requests.foldl (fun s r => (s.handle r).2) s

/-- What requests do to the store are their operations in order. -/
theorem store_after_eq (requests : List Request) : (s.after requests).store =
    (s.store.executeAll (requests.filterMap Request.operation?)).2 := by
  induction requests generalizing s with
  | nil => rfl
  | cons r requests ih =>
    rw [after, List.foldl_cons, ← after, ih, store_handle_eq, List.filterMap_cons]
    cases r.operation? <;> rfl

theorem reaches_after (requests : List Request) :
    s.store.Reaches (s.store.executeAll (requests.filterMap Request.operation?)).1
      (s.after requests).store := by
  rw [store_after_eq]
  exact s.store.reaches_executeAll _

end Server

end VersionedStore
