import VersionedStore.Client.Memory
import VersionedStore.Testing.Contention
import VersionedStore.Testing.Counting
import VersionedStore.Testing.Fixture
import VersionedStore.Testing.Outage
import VersionedStore.Testing.Script

/-!
# Backends

What calls of a test go to: a stand-in, a server in the same program, or a script of replies,
under any number of layers.

## Main definitions

* `Backend`, `Backend.transport` — the three kinds of backend
* `Shell`, `Shell.layer` — the three kinds of layer
* `Layer.stack` — layers of one kind on top of a transport
* `Backend.shelled` — a backend under layers
-/

namespace VersionedStore

/-- What calls go to. -/
inductive Backend
  /-- A stand-in for a store. -/
  | memory (m : Memory)
  /-- A server in the same program. -/
  | server (s : Http.Connection Server)
  /-- A script of replies. -/
  | script (s : Http.Connection Script)

/-- The answers of a backend; a script is reached at the given address. -/
def Backend.transport (config : HttpConfig) : Transport Backend
  | c, memory m => let r := Memory.transport c m; (r.1, memory r.2)
  | c, server s => let r := Fixture.transport c s; (r.1, server r.2)
  | c, script s => let r := Http.transport config Script.client c s; (r.1, script r.2)

/-- A layer with its state. -/
inductive Shell
  /-- Counts calls. -/
  | counting (n : CallCounts)
  /-- Acts like another writer. -/
  | contention (s : Contention)
  /-- Lets bulk requests fail. -/
  | outage (s : Outage)

def Shell.layer : Layer Shell
  | c, counting n => (CallCounts.layer c n).bind fun r => .done (r.1, counting r.2)
  | c, contention s => (Contention.layer c s).bind fun r => .done (r.1, contention r.2)
  | c, outage s => (Outage.layer c s).bind fun r => .done (r.1, outage r.2)

/-- The outermost `n` of a list of layers on top of a transport. -/
def Layer.stack {τ σ : Type} (l : Layer τ) (t : Transport σ) : (n : Nat) → Transport (List τ × σ)
  | n + 1, c, (outer :: inner, s) =>
    let r := (l c outer).run (stack l t n) (inner, s)
    (r.1.1, r.1.2 :: r.2.1, r.2.2)
  | _, c, (layers, s) => let r := t c s; (r.1, layers, r.2)

/-- The answers of a backend under `n` layers. -/
def Backend.shelled (config : HttpConfig) (n : Nat) : Transport (List Shell × Backend) :=
  Layer.stack Shell.layer (transport config) n

end VersionedStore
