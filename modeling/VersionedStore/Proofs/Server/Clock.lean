import VersionedStore.Proofs.Server.Scrolls
import VersionedStore.Server.Clock

/-!
# Requests that break off

A request breaks off if its lease is accepted and ends later than the clock of the server can tell.
It leaves the store as it was, and of the scrolls those that are open.

## Main definitions

* `Server.served` — a server after some requests, with regard to its clock

## Main results

* `Server.serve_of_overruns`, `Server.serve_of_room` — requests that break off, and all others
* `Server.serve_of_limit_le` — no request breaks off by a clock with room for every lease
* `Server.overruns_search`, `Server.overruns_advance` — which requests of a client break off
-/

namespace VersionedStore.Server

variable (s : Server) {room : Duration} {r : Request}

theorem serve_of_overruns (h : s.overruns room r = true) :
    s.serve room r = (none, s.brokenOff r) := if_pos h

theorem serve_of_room (h : s.overruns room r = false) :
    s.serve room r = (some (s.handle r).1, (s.handle r).2) := by
  rw [serve, h]
  rfl

/-- A lease that is accepted is within the limit. -/
theorem lease_le {word : String} {d : Duration} (accepted : s.lease word = .ok d) :
    d.nanoseconds ≤ s.store.config.maxLease.nanoseconds := by
  unfold lease at accepted
  split at accepted
  · cases accepted
  · dsimp only at accepted
    split at accepted
    · cases accepted
    · next within =>
      obtain rfl := Except.ok.inj accepted
      exact Nat.not_lt.1 fun long => within (Duration.exceeds_iff.2 long)

private theorem eq_ok_of_toOption {ε α : Type} {x : Except ε α} {a : α}
    (h : x.toOption = some a) : x = .ok a := by
  cases x with
  | error e => cases h
  | ok b => rw [Option.some.inj h]

/-- A lease of which the end is noted has been accepted. -/
theorem noted_le {params : Params} {body : Bytes} {route : Route} {d : Duration}
    (noted : s.noted? params body route = some d) :
    d.nanoseconds ≤ s.store.config.maxLease.nanoseconds := by
  cases route with
  | search index =>
    simp only [noted?, Option.bind_eq_bind, Option.bind_eq_some_iff] at noted
    obtain ⟨b, -, hits, -, word, -, leased⟩ := noted
    have accepted := eq_ok_of_toOption leased
    rw [scrollLease] at accepted
    split at accepted
    · cases accepted
    · exact s.lease_le accepted
  | advance =>
    simp only [noted?, Option.bind_eq_bind, Option.bind_eq_some_iff] at noted
    obtain ⟨b, -, lease, leased, noted⟩ := noted
    split at noted
    · obtain rfl := Option.some.inj noted
      exact s.lease_le (eq_ok_of_toOption leased)
    · cases noted
  | _ => cases noted

/-- As long as the clock has room for the limit of the leases, no request breaks off. -/
theorem serve_of_limit_le (enough : s.store.config.maxLease.nanoseconds ≤ room.nanoseconds)
    (r : Request) : s.serve room r = (some (s.handle r).1, (s.handle r).2) := by
  refine s.serve_of_room (Bool.eq_false_iff.2 fun breaks => ?_)
  obtain ⟨d, noted, long⟩ := (Option.any_eq_true _ _).1 breaks
  obtain ⟨route, -, noted⟩ := Option.bind_eq_some_iff.1 noted
  exact Nat.not_le.2 (Duration.exceeds_iff.1 long) (Nat.le_trans (s.noted_le noted) enough)

theorem store_brokenOff (r : Request) : (s.brokenOff r).store = s.store := by
  rw [brokenOff]
  split <;> rfl

/-! ## Runs -/

/-- A server after some requests, each of which comes with the room that the clock has by then. -/
def served (requests : List (Duration × Request)) : Server :=
  requests.foldl (fun s x => (s.serve x.1 x.2).2) s

/-- Whatever is sent to a server, it keeps its limits. -/
theorem config_served (requests : List (Duration × Request)) :
    (s.served requests).store.config = s.store.config := by
  induction requests generalizing s with
  | nil => rfl
  | cons x requests ih =>
    rw [served, List.foldl_cons, ← served, ih]
    cases overruns : s.overruns x.1 x.2 with
    | true => rw [s.serve_of_overruns overruns, store_brokenOff]
    | false =>
      rw [s.serve_of_room overruns]
      exact (s.reaches_after [x.2]).config

/-! ## The requests of a client -/

theorem route?_search {index : String} (named : index ≠ "") (word : String) (body : Bytes) :
    (Request.mk "POST" (String.ofList (Target.pathOf [index, "_search"] ++
      '?' :: Target.queryOf [("scroll", word)])) body).route? = some (.search index) := by
  rw [Request.route?]
  simp only [Target.parse_pathOf_queryOf _ (show [("scroll", word)] ≠ [] by simp),
    ofSegments?_search named]

theorem route?_advance (body : Bytes) :
    (Request.mk "POST" (String.ofList (Target.pathOf ["_search", "scroll"])) body).route? =
      some .advance := by
  have route : Route.ofSegments? "POST" (["_search", "scroll"].filter (· ≠ "")) =
      some .advance := by decide
  rw [Request.route?]
  simp only [Target.parse_pathOf, route]

variable {body : Bytes} (room : Duration)

/-- A search that goes on breaks off if the end of its lease cannot be told. -/
theorem overruns_search {index : String} (named : index ≠ "") {ix : Index}
    (here : s.store.index index = .ok ix) {b : Wire.SearchBody}
    (read : Wire.parse? Wire.SearchBody.read body = some b) {q : Query}
    (valid : Query.parse b.query = .ok q) (positive : b.size ≠ 0)
    (small : b.size ≤ s.store.config.maxPage) (word : String) :
    s.overruns room ⟨"POST", String.ofList (Target.pathOf [index, "_search"] ++
        '?' :: Target.queryOf [("scroll", word)]), body⟩ =
      (s.lease word).toOption.any (·.exceeds room) := by
  have param : Table.find? (.ofList [("scroll", word)]) "scroll" = some word := by
    simp [Table.ofList]
  rw [overruns, route?_search named, Option.bind_some]
  simp only [Target.parse_pathOf_queryOf _ (show [("scroll", word)] ≠ [] by simp), noted?,
    searchBody, if_neg (ne_nil_of_parse? read), readBody_of_parse? read,
    s.hits_of_query here valid small, Except.toOption, Option.bind_eq_bind, Option.bind_some, param,
    scrollLease, if_neg positive]

/-- A request for the next page breaks off if the end of its lease cannot be told and its scroll is
open. -/
theorem overruns_advance {b : Wire.ScrollBody}
    (read : Wire.parse? Wire.ScrollBody.read body = some b) :
    s.overruns room ⟨"POST", String.ofList (Target.pathOf ["_search", "scroll"]), body⟩ =
      ((s.lease b.lease).toOption.any (·.exceeds room) &&
        s.scrolls.purge.contexts.contains b.handle) := by
  rw [overruns, route?_advance, Option.bind_some]
  simp only [noted?, readBody_of_parse? read, Except.toOption, Option.bind_eq_bind,
    Option.bind_some]
  cases s.lease b.lease with
  | error e => rfl
  | ok lease => cases s.scrolls.purge.contexts.contains b.handle <;> simp

end VersionedStore.Server
