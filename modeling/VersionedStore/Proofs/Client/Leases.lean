import VersionedStore.Proofs.Client.Pages
import VersionedStore.Proofs.Client.Snapshot
import VersionedStore.Proofs.Client.Transparency
import VersionedStore.Proofs.Server.Clock

/-!
# Which leases are granted

A lease is rounded up before it is sent, and the server compares what arrives with its limit as it
is. So a lease within the limit is granted, and for no less time than was asked for, as long as the
next whole second is within the limit too. A limit that is no whole number of seconds turns away
leases that it should let pass, itself among them. And a lease that is granted must end at a time
that the clock of the server can tell; otherwise the call breaks off.

## Main definitions

* `Duration.granted` — the lease that a server grants if it accepts one

## Main results

* `Duration.granted_within_iff` — the limits that let every lease pass that they should
* `Loopback.timed_of_limit_le` — no call breaks off by a clock with room for every lease
* `Loopback.timed_search`, `Loopback.timed_advance` — which calls break off
* `Loopback.search_leased_iff` — a search that goes on, and the pages after it, under a lease within
  the limit
-/

namespace VersionedStore

open Json

/-! ## Rounded leases -/

namespace Duration

/-- The lease that a server grants if it accepts one: the next whole second, and at least one. -/
def granted (d : Duration) : Duration := .ofSeconds d.leaseSeconds

theorem le_granted {d : Duration}
    (short : d.nanoseconds ≤ (ofSeconds (Nat.pow 2 64 - 1)).nanoseconds) :
    d.nanoseconds ≤ d.granted.nanoseconds :=
  (isLeast_leaseSeconds short).1.2

/-- A limit lets every lease within it pass exactly if it is a whole number of seconds, one or
more. -/
theorem granted_within_iff {limit : Duration}
    (short : limit.nanoseconds ≤ (ofSeconds (Nat.pow 2 64 - 1)).nanoseconds) :
    (∀ d : Duration, d.nanoseconds ≤ limit.nanoseconds →
        d.granted.nanoseconds ≤ limit.nanoseconds) ↔
      ∃ n, 1 ≤ n ∧ limit = .ofSeconds n := by
  constructor
  · intro all
    -- The limit itself is a lease within the limit.
    have same : limit.granted.nanoseconds = limit.nanoseconds :=
      Nat.le_antisymm (all limit (Nat.le_refl _)) (le_granted short)
    exact ⟨limit.leaseSeconds, (isLeast_leaseSeconds short).1.1, congrArg Duration.mk same.symm⟩
  · rintro ⟨n, some_time, rfl⟩ d within
    have enough : d.leaseSeconds ≤ n :=
      (leaseSeconds_le_iff (Nat.le_trans within short) n).2 ⟨some_time, within⟩
    exact Nat.mul_le_mul_right _ enough

end Duration

/-- The refusal of a lease that is too long. -/
def StoreError.tooLong (asked limit : Duration) : StoreError :=
  .request (.leaseTooLong asked.seconds limit.seconds)

namespace Server

variable (s : Server)

/-- A lease is granted if what arrives of it is within the limit. -/
theorem lease_granted (d : Duration) : s.lease d.lease =
    if s.store.config.maxLease.nanoseconds < d.granted.nanoseconds then
      .error (.tooLong d.granted s.store.config.maxLease)
    else .ok d.granted := by
  simp only [lease, Wire.duration, Duration.parse?_lease, Duration.exceeds_iff]
  rfl

/-- The end of a lease that is granted cannot be told if the clock has less room. -/
theorem lease_overruns (d room : Duration) :
    (s.lease d.lease).toOption.any (·.exceeds room) = true ↔
      d.granted.nanoseconds ≤ s.store.config.maxLease.nanoseconds ∧
        room.nanoseconds < d.granted.nanoseconds := by
  rw [s.lease_granted d]
  split
  · next long => exact iff_of_false nofun fun ends => Nat.not_le.2 long ends.1
  · next short =>
    rw [Except.toOption, Option.any_some, Duration.exceeds_iff]
    exact (and_iff_right (Nat.not_lt.1 short)).symm

end Server

/-- The next page of a scroll that is open. -/
theorem Scrolls.advance_of_find? {r : Scrolls} {handle : String} {c : Scroll}
    (found : r.purge.contexts.find? handle = some c) (lease : Duration) :
    (r.advance handle lease).1 = .ok ⟨some handle, 0, c.total, c.page⟩ := by
  unfold Scrolls.advance
  simp only [found]

/-! ## Calls with a lease -/

/-- How the refusal of a lease is told to a client. -/
def ClientError.tooLong (asked limit : Duration) : ClientError :=
  .server 400 (StoreError.tooLong asked limit).toCause.message

theorem Http.page_tooLong (asked limit : Duration) :
    page (.ofError (.tooLong asked limit)) = .error (.tooLong asked limit) := by
  have told : ClientError.reasonOf (StoreError.tooLong asked limit).toFailure.toText.write =
      (StoreError.tooLong asked limit).toCause.message := by
    rw [ClientError.reasonOf, Wire.Failure.parse?_toText]
    rfl
  rw [page, decode_ofError, ClientError.ofReply, told]
  rfl

namespace Loopback

/-- As long as the clock has room for the limit of the leases, no call breaks off. -/
theorem timed_of_limit_le {room : Duration} (config : HttpConfig) (c : Call)
    {s : Http.Connection Server}
    (enough : s.client.store.config.maxLease.nanoseconds ≤ room.nanoseconds) :
    timed room config c s = (some (transport config c s).1, (transport config c s).2) := by
  rw [timed, transport, Http.transport]
  cases Http.draft c with
  | error e => rfl
  | ok d => simp only [s.client.serve_of_limit_le enough, serverClient, client]

variable {config : HttpConfig} (bare : Bare config.base) (s : Http.Connection Server)
  (d room : Duration)

include bare

/-- A call breaks off if its request does; otherwise it is answered as if the clock told all
times. -/
theorem timed_of_draft {c : Call} {method : String} {cs : List Char} {body : Option Bytes}
    (h : Http.draft c = .ok ⟨method, String.ofList cs, body⟩) (slash : cs.head? = some '/') :
    timed room config c s =
      if s.client.overruns room ⟨method, String.ofList cs, body.getD []⟩ then
        (none, ⟨s.client.brokenOff ⟨method, String.ofList cs, body.getD []⟩, s.lastError⟩)
      else (some (transport config c s).1, (transport config c s).2) := by
  rw [transport_of_draft bare h slash]
  obtain ⟨rest, rfl⟩ := List.head?_eq_some_iff.1 slash
  rw [timed, h]
  simp only [Http.request, path_append bare, Server.serve]
  cases s.client.overruns room ⟨method, String.ofList ('/' :: rest), body.getD []⟩ <;> rfl

/-- The next page of an open scroll is shown if the lease is granted. -/
theorem transport_advance_granted
    (granted : d.granted.nanoseconds ≤ s.client.store.config.maxLease.nanoseconds)
    {handle : String} {c : Scroll}
    (found : s.client.scrolls.purge.contexts.find? handle = some c) :
    (transport config (.advance handle d) s).1 =
      Http.page (.ofText 200 (Wire.SearchReply.toText ⟨some handle, 0, c.total, c.page⟩)) := by
  rw [transport_advance_eq bare, s.client.lease_granted, if_neg (Nat.not_lt.2 granted)]
  simp only [Scrolls.advance_of_find? found]

/-- A request for the next page breaks off if its lease is granted, its scroll is open and the end
of the lease cannot be told. Of the scrolls it leaves those that are open. -/
theorem timed_advance (handle : String) :
    timed room config (.advance handle d) s =
      if (d.granted.nanoseconds ≤ s.client.store.config.maxLease.nanoseconds ∧
          room.nanoseconds < d.granted.nanoseconds) ∧
          (s.client.scrolls.purge.contexts.find? handle).isSome then
        (none, ⟨{ s.client with scrolls := s.client.scrolls.purge }, s.lastError⟩)
      else (some (transport config (.advance handle d) s).1,
        (transport config (.advance handle d) s).2) := by
  have left (body : Bytes) : s.client.brokenOff
      ⟨"POST", String.ofList (Target.pathOf ["_search", "scroll"]), body⟩ =
        { s.client with scrolls := s.client.scrolls.purge } :=
    if_pos (Server.route?_advance body)
  rw [timed_of_draft bare s room (Http.draft_advance handle d) rfl, Option.getD_some,
    s.client.overruns_advance room (Wire.ScrollBody.parse?_toText ⟨d.lease, handle⟩), left]
  simp only [Bool.and_eq_true, s.client.lease_overruns d room, Table.contains]

/-- As long as the clock has room for the lease, the next page of an open scroll is shown if the
lease is granted; otherwise the call breaks off. -/
theorem timed_advance_granted
    (granted : d.granted.nanoseconds ≤ s.client.store.config.maxLease.nanoseconds)
    {handle : String} {c : Scroll}
    (found : s.client.scrolls.purge.contexts.find? handle = some c) :
    (d.granted.nanoseconds ≤ room.nanoseconds →
      (timed room config (.advance handle d) s).1 = some (Http.page (.ofText 200
        (Wire.SearchReply.toText ⟨some handle, 0, c.total, c.page⟩)))) ∧
    (room.nanoseconds < d.granted.nanoseconds → timed room config (.advance handle d) s =
      (none, ⟨{ s.client with scrolls := s.client.scrolls.purge }, s.lastError⟩)) := by
  refine ⟨fun told => ?_, fun less => ?_⟩
  · rw [timed_advance bare, if_neg fun breaks => Nat.not_lt.2 told breaks.1.2]
    exact congrArg some (transport_advance_granted bare s d granted found)
  · rw [timed_advance bare]
    exact if_pos ⟨⟨granted, less⟩, Option.isSome_of_eq_some found⟩

/-- A request for the next page is refused, whatever its handle and the clock, if the lease is not
granted. -/
theorem timed_advance_tooLong
    (long : s.client.store.config.maxLease.nanoseconds < d.granted.nanoseconds) (handle : String) :
    timed room config (.advance handle d) s =
      (some (.error (.tooLong d.granted s.client.store.config.maxLease)), ⟨s.client, none⟩) := by
  rw [timed_advance bare, if_neg fun breaks => Nat.not_le.2 long breaks.1.1,
    transport_advance_eq bare, s.client.lease_granted, if_pos long]
  simp only [Http.page_tooLong]

section Search

variable {index : String} (named : index ≠ "") {ix : Index}
  (here : s.client.store.index index = .ok ix) {b : Wire.SearchBody}
  (proper : ∀ v ∈ b.query, v.Proper ∧ v.depth ≤ 126) {asked : Query}
  (valid : Query.parse b.query = .ok asked) (positive : 0 < b.size)
  (small : b.size ≤ s.client.store.config.maxPage)

include named here proper valid positive small

/-- A search that goes on opens a scroll if its lease is granted, and the limits stay. -/
theorem transport_search_granted
    (granted : d.granted.nanoseconds ≤ s.client.store.config.maxLease.nanoseconds) :
    let searched := transport config (.search index b (some d)) s
    ∃ (handle : String) (total : Wire.Total) (hits : List Wire.RawHit),
      searched.1 = Http.page (.ofText 200 (Wire.SearchReply.toText ⟨some handle, 0, total, hits⟩)) ∧
        (searched.2.client.scrolls.purge.contexts.find? handle).isSome ∧
        searched.2.client.store.config = s.client.store.config := by
  intro searched
  obtain ⟨q, reread⟩ := Query.parse_reread valid
  have leased : s.client.lease d.lease = .ok d.granted := by
    rw [s.client.lease_granted, if_neg (Nat.not_lt.2 granted)]
  have first := transport_search_eq bare s named here proper reread
    (UInt32.pos_iff_ne_zero.1 positive) small d
  rw [leased] at first
  let hits := (ix.select q).map (Store.hit index b.versions)
  have opened := Scrolls.holds_start s.client.scrolls hits b.size.toNat
    (Server.ne_zero_of_lease leased)
  have state : searched.2.client = ⟨s.client.store,
      (s.client.scrolls.start hits b.size.toNat d.granted).2⟩ := by
    simp only [searched, first, hits]
  refine ⟨s.client.scrolls.named.next, .exact (UInt64.ofNat hits.length),
    hits.take b.size.toNat, ?_, ?_, ?_⟩
  · simp only [searched, first]
    rfl
  · rw [state]
    exact Option.isSome_of_eq_some opened.purge
  · rw [state]

/-- A search is refused if its lease is not granted. -/
theorem transport_search_tooLong
    (long : s.client.store.config.maxLease.nanoseconds < d.granted.nanoseconds) :
    transport config (.search index b (some d)) s =
      (.error (.tooLong d.granted s.client.store.config.maxLease), ⟨s.client, none⟩) := by
  obtain ⟨q, reread⟩ := Query.parse_reread valid
  rw [transport_search_eq bare s named here proper reread (UInt32.pos_iff_ne_zero.1 positive) small
    d, s.client.lease_granted, if_pos long]
  simp only [Http.page_tooLong]

/-- A search that goes on breaks off if its lease is granted and the end of the lease cannot be
told. Nothing has changed by then. -/
theorem timed_search :
    timed room config (.search index b (some d)) s =
      if d.granted.nanoseconds ≤ s.client.store.config.maxLease.nanoseconds ∧
          room.nanoseconds < d.granted.nanoseconds then (none, s)
      else (some (transport config (.search index b (some d)) s).1,
        (transport config (.search index b (some d)) s).2) := by
  obtain ⟨q, reread⟩ := Query.parse_reread valid
  rw [← Query.parse_arrived] at reread
  have left (body : Bytes) : s.client.brokenOff ⟨"POST", String.ofList
      (Target.pathOf [index, "_search"] ++ '?' :: Target.queryOf [("scroll", d.lease)]), body⟩ =
        s.client :=
    if_neg (by rw [Server.route?_search named]; exact nofun)
  rw [timed_of_draft bare s room (Http.draft_search index b d) rfl, Option.getD_some,
    s.client.overruns_search room named here (Wire.SearchBody.parse?_toText b proper) reread
      (UInt32.pos_iff_ne_zero.1 positive) small, left]
  simp only [s.client.lease_overruns d room]

/-- Under a limit of fewer than the seconds that 64 bits count, a lease within the limit is granted
exactly if the next whole second is within the limit too, and then for no less time than was asked
for. The search then shows its first page, and as long as its scroll is open, whatever is sent to
the server, each further page is shown — each provided that the clock has room for the granted lease
by then; otherwise the call breaks off and leaves what was open. If the next whole second is beyond
the limit, the search and every request for a further page are refused for their lease, whatever the
clock. So the limits that turn no lease away that is within them are the whole numbers of
seconds. -/
theorem search_leased_iff
    (short : s.client.store.config.maxLease.nanoseconds <
      (Duration.ofSeconds (Nat.pow 2 64 - 1)).nanoseconds)
    (within : d.nanoseconds ≤ s.client.store.config.maxLease.nanoseconds) :
    let limit := s.client.store.config.maxLease
    let searched := timed room config (.search index b (some d)) s
    d.nanoseconds ≤ d.granted.nanoseconds ∧
      (d.granted.nanoseconds ≤ limit.nanoseconds →
        s.client.lease d.lease = .ok d.granted ∧
        (room.nanoseconds < d.granted.nanoseconds → searched = (none, s)) ∧
        (d.granted.nanoseconds ≤ room.nanoseconds →
          ∃ (handle : String) (total : Wire.Total) (hits : List Wire.RawHit),
            searched.1 = some (Http.page (.ofText 200 (Wire.SearchReply.toText
              ⟨some handle, 0, total, hits⟩))) ∧
            (searched.2.client.scrolls.purge.contexts.find? handle).isSome ∧
            ∀ (requests : List (Duration × Request)) (e : Option String),
              let later : Http.Connection Server := ⟨searched.2.client.served requests, e⟩
              later.client.lease d.lease = .ok d.granted ∧
                ∀ scroll, later.client.scrolls.purge.contexts.find? handle = some scroll →
                  ∀ room' : Duration,
                    (d.granted.nanoseconds ≤ room'.nanoseconds →
                      (timed room' config (.advance handle d) later).1 =
                        some (Http.page (.ofText 200 (Wire.SearchReply.toText
                          ⟨some handle, 0, scroll.total, scroll.page⟩)))) ∧
                    (room'.nanoseconds < d.granted.nanoseconds →
                      timed room' config (.advance handle d) later =
                        (none, ⟨{ later.client with scrolls := later.client.scrolls.purge },
                          e⟩)))) ∧
      (limit.nanoseconds < d.granted.nanoseconds →
        searched = (some (.error (.tooLong d.granted limit)), ⟨s.client, none⟩) ∧
        ∀ (requests : List (Duration × Request)) (e : Option String) (room' : Duration)
          (handle : String),
          let later : Http.Connection Server := ⟨s.client.served requests, e⟩
          timed room' config (.advance handle d) later =
            (some (.error (.tooLong d.granted limit)), ⟨later.client, none⟩)) ∧
      ((∀ d' : Duration, d'.nanoseconds ≤ limit.nanoseconds →
          d'.granted.nanoseconds ≤ limit.nanoseconds) ↔
        ∃ n, 1 ≤ n ∧ limit = .ofSeconds n) := by
  intro limit searched
  have whole : limit.nanoseconds ≤ (Duration.ofSeconds (Nat.pow 2 64 - 1)).nanoseconds :=
    Nat.le_of_lt short
  have search := timed_search bare s d room named here proper valid positive small
  refine ⟨Duration.le_granted (Nat.le_trans within whole), fun granted => ?_, fun long => ?_,
    Duration.granted_within_iff whole⟩
  · have leased : s.client.lease d.lease = .ok d.granted := by
      rw [s.client.lease_granted, if_neg (Nat.not_lt.2 granted)]
    refine ⟨leased, fun less => search.trans (if_pos ⟨granted, less⟩), fun told => ?_⟩
    rw [if_neg fun breaks => Nat.not_lt.2 told breaks.2] at search
    obtain ⟨handle, total, hits, shown, opened, kept⟩ :=
      transport_search_granted bare s d named here proper valid positive small granted
    generalize transport config (.search index b (some d)) s = answered at search shown opened kept
    rw [show searched = (some answered.1, answered.2) from search, shown]
    refine ⟨handle, total, hits, rfl, opened, fun requests e => ?_⟩
    -- Whatever is sent to the server, it keeps its limit.
    have same : (answered.2.client.served requests).store.config = s.client.store.config := by
      rw [Server.config_served, kept]
    refine ⟨(Server.lease_eq same _).trans leased, fun scroll found room' => ?_⟩
    exact timed_advance_granted bare ⟨_, e⟩ d room' (same ▸ granted) found
  · rw [if_neg fun breaks => Nat.not_le.2 long breaks.1,
      transport_search_tooLong bare s d named here proper valid positive small long] at search
    refine ⟨search, fun requests e room' handle => ?_⟩
    have same : (s.client.served requests).store.config = s.client.store.config :=
      s.client.config_served requests
    have refused := timed_advance_tooLong bare ⟨s.client.served requests, e⟩ d room'
      (same ▸ long) handle
    rw [same] at refused
    exact refused

end Search

omit bare

/-- A server with an index and a limit of some milliseconds. -/
def limited (milliseconds : Nat) : Server :=
  ⟨(Store.empty { maxLease := .ofMilliseconds milliseconds }).createIndex "b", .empty⟩

/-- Under a limit of two seconds, a lease of a second and a half is granted for two seconds. By a
clock that tells the next minute, the search shows its first page, and so does the request for the
next one; once the clock tells one more second only, that request breaks off. -/
theorem search_leased_iff_granted :
    let lease := Duration.ofMilliseconds 1500
    let searched := timed (.ofSeconds 60) Repository.nearby
      (.search "b" (.ofQuery none 1) (some lease)) ⟨limited 2000, none⟩
    Bare Repository.nearby.base ∧
      lease.nanoseconds ≤ (limited 2000).store.config.maxLease.nanoseconds ∧
      (limited 2000).lease lease.lease = .ok (.ofSeconds 2) ∧
      ∃ handle total hits, searched.1 = some (Http.page (.ofText 200
          (Wire.SearchReply.toText ⟨some handle, 0, total, hits⟩))) ∧
        ∃ scroll, searched.2.client.scrolls.purge.contexts.find? handle = some scroll ∧
          (timed (.ofSeconds 60) Repository.nearby (.advance handle lease)
              ⟨searched.2.client, none⟩).1 = some (Http.page (.ofText 200
            (Wire.SearchReply.toText ⟨some handle, 0, scroll.total, scroll.page⟩))) ∧
          (timed (.ofSeconds 1) Repository.nearby (.advance handle lease)
            ⟨searched.2.client, none⟩).1 = none := by
  intro lease
  have bare : Bare Repository.nearby.base := ⟨"a".toList, by decide +kernel, by decide⟩
  have within : lease.nanoseconds ≤ (limited 2000).store.config.maxLease.nanoseconds := by decide
  have everything : ∀ v ∈ (none : Option Value), v.Proper ∧ v.depth ≤ 126 :=
    fun v none => absurd none (Option.not_mem_none v)
  have here : (limited 2000).store.index "b" = .ok .empty := rfl
  have valid : Query.parse (Wire.SearchBody.ofQuery none 1).query = .ok .all := rfl
  have short : (limited 2000).store.config.maxLease.nanoseconds <
      (Duration.ofSeconds (Nat.pow 2 64 - 1)).nanoseconds := by decide +kernel
  have rounded : lease.granted = .ofSeconds 2 := by decide
  obtain ⟨-, granted, -⟩ := search_leased_iff bare ⟨limited 2000, none⟩ lease (.ofSeconds 60)
    (by decide) here everything valid (by decide) (by decide) short within
  rw [rounded] at granted
  obtain ⟨leased, -, told⟩ := granted (by decide)
  refine ⟨bare, within, leased, ?_⟩
  obtain ⟨handle, total, hits, shown, opened, later⟩ := told (by decide)
  generalize timed (.ofSeconds 60) Repository.nearby (.search "b" (.ofQuery none 1) (some lease))
    ⟨limited 2000, none⟩ = searched at shown opened later ⊢
  obtain ⟨scroll, found⟩ := Option.isSome_iff_exists.1 opened
  obtain ⟨-, pages⟩ := later [] none
  have next := (pages scroll found (.ofSeconds 60)).1 (by decide)
  have broken := (pages scroll found (.ofSeconds 1)).2 (by decide)
  exact ⟨handle, total, hits, shown, scroll, found, next, congrArg Prod.fst broken⟩

/-- The limit itself is turned away if it is a second and a half. -/
theorem limit_turned_away :
    let lease := Duration.ofMilliseconds 1500
    (limited 1500).store.config.maxLease = lease ∧
      (transport Repository.nearby (.search "b" (.ofQuery none 1) (some lease))
        ⟨limited 1500, none⟩).1 = .error (.server 400 ("illegal_argument_exception: " ++
          "invalid request: scroll keep alive [2s] exceeds the maximum [1s]")) := by
  decide +kernel

end Loopback

end VersionedStore
