import VersionedStore.Client.Http
import VersionedStore.Server.Clock

/-!
# Loopback

A client of requests that hands them to a server in the same program. Scheme and authority of
the address do not reach the server.

## Main definitions

* `Loopback.path` — the path of an address
* `Loopback.client` — the client over what handles requests
* `Loopback.transport` — calls that are answered by a server in the same program
* `Loopback.timed` — such a call, with regard to the clock of the server
-/

namespace VersionedStore.Loopback

/-- What follows the first `://`, if there is one. -/
def afterScheme? : List Char → Option (List Char)
  | ':' :: '/' :: '/' :: rest => some rest
  | _ :: rest => afterScheme? rest
  | [] => none

/-- The path of an address, with its parameters; without one it is a slash. -/
def pathChars (url : List Char) : List Char :=
  match afterScheme? url with
  | none => url
  | some rest =>
    match rest.dropWhile (· ≠ '/') with
    | [] => ['/']
    | path => path

/-- The path of an address, with its parameters. -/
def path (url : String) : String := String.ofList (pathChars url.toList)

variable {σ : Type}

/-- Hands requests to what handles them. -/
def client (handle : Request → σ → Reply × σ) : HttpClient σ := fun r s =>
  let answered := handle ⟨r.method, path r.url, r.body.getD []⟩ s
  (.ok answered.1, answered.2)

/-- Hands requests to a server. -/
def serverClient : HttpClient Server := client fun r s => s.handle r

/-- Calls that are answered by a server in the same program, where its clock has room for the leases
that they ask for. -/
def transport (config : HttpConfig) : Transport (Http.Connection Server) :=
  Http.transport config serverClient

/-- The answer to a call by a server in the same program whose clock has some room; none if the
server breaks off, for then the call breaks off with it. -/
def timed (room : Duration) (config : HttpConfig) (c : Call) (s : Http.Connection Server) :
    Option c.Reply × Http.Connection Server :=
  match Http.draft c with
  | .error e => (some (.error e), s)
  | .ok d =>
    let r := Http.request config d
    match s.client.serve room ⟨r.method, path r.url, r.body.getD []⟩ with
    | (none, server) => (none, ⟨server, s.lastError⟩)
    | (some reply, server) => (some (Http.answer c reply), ⟨server, none⟩)

end VersionedStore.Loopback
