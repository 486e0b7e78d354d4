import VersionedStore.Client.Loopback
import VersionedStore.Client.Repository

/-!
# A store to try things on

A server in the same program, reached by the same requests as one over a network, and
repositories on it that may refresh and whose writes are visible at once.

## Main definitions

* `Fixture.transport`, `Fixture.start` — the way to the server, and its first state
* `Fixture.repositoryConfig`, `Fixture.repository` — repositories on it
* `Fixture.seed` — documents put into the store beforehand
-/

namespace VersionedStore.Fixture

/-- The address of the server; nothing but the path of a request reaches it. -/
def address : String := "http://docbulk.test:9200"

/-- How the server is reached. -/
def httpConfig : HttpConfig := .ofUrl address

/-- Calls that the server answers. -/
def transport : Transport (Http.Connection Server) := Loopback.transport httpConfig

/-- A server with an empty store. -/
def start (config : StoreConfig) (ids : NameSupply := .documents)
    (handles : NameSupply := .cursors) : Http.Connection Server := ⟨.empty config ids handles, none⟩

/-- A repository on an index may refresh, and its writes are visible at once. -/
def repositoryConfig (index : String) : RepositoryConfig :=
  { index, refreshAllowed := true, refresh := .waitFor }

/-- A repository on an index. -/
def repository {α : Type} (codec : Codec α) (index : String) : Repository α :=
  ⟨codec, repositoryConfig index⟩

/-- The bulk request that puts documents into an index and publishes them. -/
def seedRequest (index : String) (documents : List (String × Bytes)) : Option Request :=
  match Bulk.encode (documents.map fun d => .put d.1 none d.2) with
  | .error _ => none
  | .ok body => some ⟨"POST", s!"/{index}/_bulk?refresh=true", body⟩

/-- The server after documents were put into an index and published. -/
def seed (index : String) (documents : List (String × Bytes)) (s : Server) : Server :=
  match seedRequest index documents with
  | none => s
  | some r => (s.handle r).2

end VersionedStore.Fixture
