import VersionedStore.Client.Program

/-!
# Interleaved programs

Several programs run against one transport. Each call is a step that is not interrupted; a
schedule tells whose step is next.

## Main definitions

* `Program.step` — the first call of a program
* `Program.stepAt` — a step of one of several programs
* `Program.interleave` — the steps of a schedule
-/

namespace VersionedStore.Program

variable {α σ : Type}

/-- Makes the first call of a program. -/
def step (t : Transport σ) : Program α → σ → Program α × σ
  | done a, s => (done a, s)
  | call c next, s => (next (t c s).1, (t c s).2)

/-- Makes the first call of the program at a place. -/
def stepAt (t : Transport σ) (i : Nat) (ps : List (Program α)) (s : σ) : List (Program α) × σ :=
  match ps[i]? with
  | none => (ps, s)
  | some p =>
    let r := p.step t s
    (ps.set i r.1, r.2)

/-- Runs programs by a schedule. -/
def interleave (t : Transport σ) : List Nat → List (Program α) → σ → List (Program α) × σ
  | [], ps, s => (ps, s)
  | i :: rest, ps, s =>
    let r := stepAt t i ps s
    interleave t rest r.1 r.2

/-- The result of a program that is over. -/
def result? : Program α → Option α
  | done a => some a
  | call .. => none

end VersionedStore.Program
