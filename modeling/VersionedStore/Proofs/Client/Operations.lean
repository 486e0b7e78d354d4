import VersionedStore.Proofs.Client.Exchange
import VersionedStore.Proofs.Server.Scrolls
import VersionedStore.Proofs.Store.Search

/-!
# Requests that reach the store

The request of a call about the store is answered by one operation of the store, on the index and
the document that the call names, whatever their names look like.

## Main definitions

* `Server.told` — the reply that tells the result of an operation

## Main results

* `Server.answer_bulk`, `Server.answer_get`, `Server.answer_put`, `Server.answer_create`,
  `Server.answer_delete`, `Server.answer_search`, `Server.answer_count`, `Server.answer_refresh` —
  the operations behind the requests
* `Loopback.transport_of_answer` — a call is answered by the reply that tells its operation
-/

namespace VersionedStore

open Json

namespace Server

/-- The reply that tells the result of an operation. -/
def told {α : Type} (r : Except StoreError α) (reply : α → Reply) : Reply :=
  match r with
  | .error e => .ofError e
  | .ok a => reply a

theorem handle_of_answer {α : Type} {s : Server} {r : Request} {x : Except StoreError α × Store}
    {reply : α → Reply} (answered : s.answer r = s.onStore x reply) :
    s.handle r = (told x.1 reply, { s with store := x.2 }) := by
  obtain ⟨result, store⟩ := x
  rw [handle, answered]
  cases result <;> rfl

theorem handle_told {α : Type} {s : Server} {r : Request} {x : Except StoreError α}
    {reply : α → Reply} (answered : (s.answer r).1 = x.map reply) :
    (s.handle r).1 = told x reply := by
  rw [handle]
  generalize s.answer r = result at answered ⊢
  obtain ⟨result, s'⟩ := result
  obtain rfl := answered
  cases x <;> rfl

end Server

section Call

variable {config : HttpConfig} {c : Call} {method : String} {cs : List Char} {body : Option Bytes}
  (bare : Loopback.Bare config.base) (draft : Http.draft c = .ok ⟨method, String.ofList cs, body⟩)
  (slash : cs.head? = some '/') {s : Http.Connection Server} {α : Type} {reply : α → Reply}

include bare draft slash

/-- A call is answered by the reply that tells the result of its operation. -/
theorem Loopback.transport_of_answer {x : Except StoreError α × Store}
    (answered : s.client.answer ⟨method, String.ofList cs, body.getD []⟩ =
      s.client.onStore x reply) :
    transport config c s =
      (Http.answer c (Server.told x.1 reply), ⟨{ s.client with store := x.2 }, none⟩) := by
  rw [transport_of_draft bare draft slash, Server.handle_of_answer answered]

/-- The answer to a call is read off the reply, whatever becomes of the server. -/
theorem Loopback.answer_of_told {x : Except StoreError α}
    (answered : (s.client.answer ⟨method, String.ofList cs, body.getD []⟩).1 = x.map reply) :
    (transport config c s).1 = Http.answer c (Server.told x reply) := by
  rw [transport_of_draft bare draft slash, Server.handle_told answered]

end Call

/-! ## The operations behind the requests -/

namespace Server

variable (s : Server) {index id : String} (named : index ≠ "")

include named

theorem answer_bulk {actions : List Action} {body : Bytes}
    (decoded : Bulk.decode body = .ok actions) (refresh : RefreshPolicy) :
    s.answer ⟨"POST", String.ofList (Target.pathOf [index, "_bulk"] ++
        '?' :: Target.queryOf [("refresh", refresh.param)]), body⟩ =
      s.onStore (s.store.bulk (some index) actions refresh) fun r => .ofText 200 r.toText := by
  have route : Route.ofSegments? "POST" ([index, "_bulk"].filter (· ≠ "")) =
      some (.bulk (some index)) := by
    simp [named, Route.ofSegments?, Route.ofPair?]
  have policy : Params.refreshPolicy (.ofList [("refresh", refresh.param)]) = .ok refresh :=
    Http.refreshPolicy_of_find? refresh (by simp [Table.ofList])
  rw [answer]
  simp only [Target.parse_pathOf_queryOf _ (show [("refresh", refresh.param)] ≠ [] by simp), route,
    run, bulk, decoded, policy, Except.mapError]

theorem answer_get (known : id ≠ "") :
    s.answer ⟨"GET", String.ofList (Target.pathOf [index, "_doc", id]), []⟩ =
      s.onStore (s.store.get index id, s.store) fun r =>
        .ofText (if r.found then 200 else 404) r.toText := by
  have route : Route.ofSegments? "GET" ([index, "_doc", id].filter (· ≠ "")) =
      some (.get index id) := by
    simp [named, known, Route.ofSegments?, Route.ofTriple?]
  rw [answer]
  simp only [Target.parse_pathOf, route, run, get, onStore]
  cases s.store.get index id <;> rfl

theorem answer_put (known : id ≠ "") (mode : WriteMode) (required : Option Version)
    (refresh : RefreshPolicy) (body : Bytes) :
    s.answer ⟨"PUT", String.ofList (Target.pathOf [index, "_doc", id] ++
        '?' :: Target.queryOf (Http.writeParams (some mode) required refresh)), body⟩ =
      s.onStore (s.store.write index (some id) mode.kind required body refresh) fun w =>
        .ofText w.result.status (writtenReply index w).toText := by
  have route : Route.ofSegments? "PUT" ([index, "_doc", id].filter (· ≠ "")) =
      some (.put index id) := by
    simp [named, known, Route.ofSegments?, Route.ofTriple?]
  rw [answer]
  simp only [Target.parse_pathOf_queryOf _ (Http.writeParams_ne_nil _ _ _), route, run,
    Http.writeMode_writeParams, write, Http.version_writeParams, Http.refreshPolicy_writeParams]

theorem answer_create (required : Option Version) (refresh : RefreshPolicy) (body : Bytes) :
    s.answer ⟨"POST", String.ofList (Target.pathOf [index, "_doc"] ++
        '?' :: Target.queryOf (Http.writeParams none required refresh)), body⟩ =
      s.onStore (s.store.write index none .create required body refresh) fun w =>
        .ofText w.result.status (writtenReply index w).toText := by
  have route : Route.ofSegments? "POST" ([index, "_doc"].filter (· ≠ "")) =
      some (.create index none) := by
    simp [named, Route.ofSegments?, Route.ofPair?]
  rw [answer]
  simp only [Target.parse_pathOf_queryOf _ (Http.writeParams_ne_nil _ _ _), route, run, write,
    Http.version_writeParams, Http.refreshPolicy_writeParams, WriteMode.kind]

theorem answer_delete (known : id ≠ "") (required : Option Version) (refresh : RefreshPolicy) :
    s.answer ⟨"DELETE", String.ofList (Target.pathOf [index, "_doc", id] ++
        '?' :: Target.queryOf (Http.writeParams none required refresh)), []⟩ =
      s.onStore (s.store.delete index id required refresh) fun w =>
        .ofText 200 (writtenReply index w).toText := by
  have route : Route.ofSegments? "DELETE" ([index, "_doc", id].filter (· ≠ "")) =
      some (.delete index id) := by
    simp [named, known, Route.ofSegments?, Route.ofTriple?]
  rw [answer]
  simp only [Target.parse_pathOf_queryOf _ (Http.writeParams_ne_nil _ _ _), route, run, delete,
    Http.version_writeParams, Http.refreshPolicy_writeParams]

omit named in
/-- A query arrives as what its printed form is read as. -/
theorem query_arrived (query : Option Value) :
    Server.query (Wire.arrived query) = Server.query (query.map Value.reread) := by
  rw [Server.query, Query.parse_arrived, Server.query]

theorem answer_search {b : Wire.SearchBody} {body : Bytes}
    (read : Wire.parse? Wire.SearchBody.read body = some { b with query := Wire.arrived b.query })
    (small : b.size ≤ s.store.config.maxPage) :
    s.answer ⟨"POST", String.ofList (Target.pathOf [index, "_search"]), body⟩ =
      s.onStore ((do s.store.search index (← Server.query (b.query.map Value.reread)) b.versions),
        s.store) fun hits => .ofText 200 (Wire.SearchReply.toText
          ⟨none, 0, .exact (UInt64.ofNat hits.length), hits.take b.size.toNat⟩) := by
  have route : Route.ofSegments? "POST" ([index, "_search"].filter (· ≠ "")) =
      some (.search index) := by
    simp [named, Route.ofSegments?, Route.ofPair?]
  have found : s.hits index { b with query := Wire.arrived b.query } =
      (do s.store.search index (← Server.query (b.query.map Value.reread)) b.versions) := by
    rw [Server.hits, if_neg (by simpa using small), query_arrived]
  rw [answer]
  simp only [Target.parse_pathOf, route, run, search, searchBody, if_neg (ne_nil_of_parse? read),
    readBody_of_parse? read, found, onStore]
  cases (do s.store.search index (← Server.query (b.query.map Value.reread)) b.versions) <;> rfl

theorem answer_count {query : Option Value} {body : Bytes}
    (read : Wire.parse? Wire.CountBody.read body = some ⟨Wire.arrived query⟩) :
    s.answer ⟨"POST", String.ofList (Target.pathOf [index, "_count"]), body⟩ =
      s.onStore ((do s.store.count index (← Server.query (query.map Value.reread))), s.store)
        fun n => .ofText 200 (Wire.CountReply.toText ⟨n⟩) := by
  have route : Route.ofSegments? "POST" ([index, "_count"].filter (· ≠ "")) =
      some (.count index) := by
    simp [named, Route.ofSegments?, Route.ofPair?]
  rw [answer]
  simp only [Target.parse_pathOf, route, run, count, if_neg (ne_nil_of_parse? read),
    readBody_of_parse? read, bind, Except.bind, query_arrived, onStore]
  cases Server.query (query.map Value.reread) with
  | error e => rfl
  | ok q =>
    simp only
    cases s.store.count index q <;> rfl

theorem answer_refresh :
    s.answer ⟨"POST", String.ofList (Target.pathOf [index, "_refresh"]), []⟩ =
      s.onStore (s.store.refresh index) fun _ => .ofText 200 refreshed := by
  have route : Route.ofSegments? "POST" ([index, "_refresh"].filter (· ≠ "")) =
      some (.refresh index) := by
    simp [named, Route.ofSegments?, Route.ofPair?]
  rw [answer]
  simp only [Target.parse_pathOf, route, run]

end Server

end VersionedStore
