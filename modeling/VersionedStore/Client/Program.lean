import VersionedStore.Client.Call

/-!
# Programs of calls

What a client does is a program: it makes a call and goes on according to the reply, or it is
done. A transport carries calls to whatever keeps its state; running a program against a
transport threads that state through the calls in order.

## Main definitions

* `Program` — a tree of calls and replies
* `Transport` — what answers calls
* `Program.run` — a program run against a transport
* `Layer` — answers calls by programs of further calls
* `Layer.above` — a transport with a layer on top of it

## Main statements

* `Program.run_bind` — a program in sequence runs in sequence
-/

namespace VersionedStore

/-- A call and how to go on according to its reply, or a result. -/
inductive Program (α : Type) : Type
  /-- Nothing more to ask. -/
  | done (a : α)
  /-- A call, and what to do with its reply. -/
  | call (c : Call) (next : c.Reply → Program α)

/-- What answers calls, on a state of its own. -/
abbrev Transport (σ : Type) : Type := (c : Call) → σ → c.Reply × σ

namespace Program

variable {α β σ : Type}

/-- Goes on with the result of a program. -/
def bind (p : Program α) (f : α → Program β) : Program β :=
  match p with
  | done a => f a
  | call c next => call c fun r => (next r).bind f

instance : Monad Program where
  pure := done
  bind := bind

/-- A single call. -/
def ask (c : Call) : Program c.Reply := call c done

/-- Runs a program against a transport. -/
def run (t : Transport σ) : Program α → σ → α × σ
  | done a, s => (a, s)
  | call c next, s =>
    let reply := t c s
    run t (next reply.1) reply.2

theorem bind_done (p : Program α) : p.bind done = p := by
  induction p with
  | done a => rfl
  | call c next ih => simp only [bind]; congr 1; funext r; exact ih r

theorem bind_assoc {γ : Type} (p : Program α) (f : α → Program β) (g : β → Program γ) :
    (p.bind f).bind g = p.bind fun a => (f a).bind g := by
  induction p with
  | done a => rfl
  | call c next ih => simp only [bind]; congr 1; funext r; exact ih r

/-- A program in sequence runs in sequence. -/
theorem run_bind (t : Transport σ) (p : Program α) (f : α → Program β) (s : σ) :
    (p.bind f).run t s = (f (p.run t s).1).run t (p.run t s).2 := by
  induction p generalizing s with
  | done a => rfl
  | call c next ih => simp only [bind, run]; exact ih _ _

end Program

/-- Answers calls by programs of further calls, on a state of its own. -/
abbrev Layer (τ : Type) : Type := (c : Call) → τ → Program (c.Reply × τ)

namespace Layer

variable {τ σ : Type}

/-- A transport with a layer on top of it. -/
def above (l : Layer τ) (t : Transport σ) : Transport (τ × σ) := fun c s =>
  let r := (l c s.1).run t s.2
  (r.1.1, r.1.2, r.2)

end Layer

end VersionedStore
