import VersionedStore.Client.Http

/-!
# Scripted replies

A client of requests that answers from a list of replies and keeps the requests.

## Main definitions

* `Script` — the replies that are left, and the requests that were sent
* `Script.client` — the client
-/

namespace VersionedStore

/-- The replies that are left, and the requests that were sent. -/
structure Script where
  /-- A reply, or why none comes, for each of the next requests. -/
  replies : List (Except String Reply)
  /-- The requests that were sent, in order. -/
  sent : List HttpRequest := []

namespace Script

/-- Why there is no reply when the list is used up. -/
def refusal : String := "connection refused"

/-- Answers with the next reply. -/
def client : HttpClient Script := fun r s =>
  match s.replies with
  | [] => (.error refusal, { s with sent := s.sent ++ [r] })
  | reply :: rest => (reply, ⟨rest, s.sent ++ [r]⟩)

end Script

end VersionedStore
