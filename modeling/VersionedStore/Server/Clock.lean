import VersionedStore.Server.Basic

/-!
# The clock of a server

A server notes when a lease ends: so much later than the time that it is. Its clock cannot tell all
times, though. A lease that ends later than the last one makes the server break off: there is no
reply, and whoever called it in the same program is interrupted too. As long as the clock has room
for the leases that are asked for, the answer is that of `Server.handle`.

## Main definitions

* `Server.noted?` — the lease of which a request notes the end
* `Server.overruns` — whether the clock cannot tell that end
* `Server.serve` — the answer to a request, with regard to the clock
-/

namespace VersionedStore

namespace Server

/-- The lease of which a request of a route notes the end. -/
def noted? (s : Server) (params : Params) (body : Bytes) : Route → Option Duration
  | .search index => do
    let b ← (searchBody body).toOption
    let _ ← (s.hits index b).toOption
    let word ← params.find? "scroll"
    (s.scrollLease b word).toOption
  | .advance => do
    let b ← (readBody Wire.ScrollBody.read body).toOption
    let lease ← (s.lease b.lease).toOption
    -- Of a scroll that is not open nothing is noted.
    if s.scrolls.purge.contexts.contains b.handle then some lease else none
  | _ => none

/-- Whether a request notes the end of a lease that the clock cannot tell. It tells the times from
now on that are within its room. -/
def overruns (room : Duration) (s : Server) (r : Request) : Bool :=
  (r.route?.bind (s.noted? (Target.parse r.target).params r.body)).any (·.exceeds room)

/-- What a request leaves behind that breaks off: a search has not touched the scrolls by then, and
a request for a page has dropped those whose lease was over. -/
def brokenOff (s : Server) (r : Request) : Server :=
  if r.route? = some .advance then { s with scrolls := s.scrolls.purge } else s

/-- The answer to a request and the server after it, by a clock with some room; none if the request
breaks off. -/
def serve (room : Duration) (s : Server) (r : Request) : Option Reply × Server :=
  if s.overruns room r then (none, s.brokenOff r)
  else
    let (reply, s) := s.handle r
    (some reply, s)

end Server

end VersionedStore
