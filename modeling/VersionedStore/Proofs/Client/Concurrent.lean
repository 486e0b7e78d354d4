import VersionedStore.Proofs.Client.Update

/-!
# Updates at the same time

Any number of clients make updates on one server, and anyone may send any other request in
between; a request is one step. However the steps are mixed, an update that is acknowledged has
replaced the live document by its change in one of its steps and did nothing else, and one that is
not acknowledged has left every document as it was.

## Main definitions

* `World` — a server, and clients with what is left of their programs
* `World.Move`, `World.after` — what may happen, and the world after it
* `World.Steady` — what holds of a world between the moves

## Main results

* `World.Steady.after` — every run keeps a world steady
* `World.Steady.after_cases` — what a whole run does for one of its updates
-/

namespace VersionedStore

/-- A client and what is left of its program. -/
structure Running where
  client : UpdateClient
  /-- What is left. -/
  program : Program (Except ClientError Updated)

/-- The next call of a client. -/
def Running.next (r : Running) (s : Server) : Running × Server :=
  let stepped := r.program.step (Loopback.transport r.client.http) ⟨s, none⟩
  (⟨r.client, stepped.1⟩, stepped.2.client)

/-- A server and its clients. -/
structure World where
  server : Server
  /-- The clients. -/
  running : List Running

namespace World

/-- What may happen next. -/
inductive Move
  /-- The client at a place makes its next call. -/
  | client (i : Nat)
  /-- Someone else sends a request. -/
  | other (r : Request)

/-- A server and clients that have not begun. -/
def start (server : Server) (clients : List UpdateClient) : World :=
  ⟨server, clients.map fun c => ⟨c, c.program⟩⟩

/-- The world after a move. -/
def step (w : World) : Move → World
  | .other r => { w with server := (w.server.handle r).2 }
  | .client i =>
    match w.running[i]? with
    | none => w
    | some r => ⟨(r.next w.server).2, w.running.set i (r.next w.server).1⟩

def after (w : World) (moves : List Move) : World := moves.foldl step w

def store (w : World) : Store := w.server.store

/-! ## Runs -/

/-- What holds of a world between the moves. -/
structure Steady (w : World) : Prop where
  sound : w.store.Sound
  phase : ∀ r ∈ w.running, r.client.Phase w.store r.program
  bare : ∀ r ∈ w.running, Loopback.Bare r.client.http.base
  canonical : ∀ r ∈ w.running, r.client.updater.codec.Canonical

/-- Whether all counts still fit the numbers of versions. -/
def Few (w : World) : Prop := ∀ name, w.store.writes name ≤ UInt64.size

variable {w : World}

theorem step_client {i : Nat} {r : Running} (h : w.running[i]? = some r) :
    w.step (.client i) = ⟨(r.next w.server).2, w.running.set i (r.next w.server).1⟩ := by
  rw [step, h]

theorem step_client_of_none {i : Nat} (h : w.running[i]? = none) : w.step (.client i) = w := by
  rw [step, h]

theorem evolves_next (r : Running) (s : Server) :
    ∃ log, s.store.Evolves log (r.next s).2.store := by
  rw [Running.next]
  cases r.program with
  | done a => exact ⟨[], .refl _⟩
  | call c next => exact Loopback.evolves_transport r.client.http c ⟨s, none⟩

theorem evolves_step (w : World) (m : Move) : ∃ log, w.store.Evolves log (w.step m).store := by
  cases m with
  | other r => exact w.server.evolves_handle r
  | client i =>
    cases h : w.running[i]? with
    | none => exact ⟨[], by rw [step_client_of_none h]; exact .refl _⟩
    | some r =>
      rw [step_client h]
      exact evolves_next r w.server

theorem evolves_after (w : World) (moves : List Move) :
    ∃ log, w.store.Evolves log (w.after moves).store := by
  induction moves generalizing w with
  | nil => exact ⟨[], .refl _⟩
  | cons m moves ih =>
    obtain ⟨first, hfirst⟩ := w.evolves_step m
    obtain ⟨others, hothers⟩ := ih (w.step m)
    exact ⟨_, hfirst.trans hothers⟩

theorem Few.of_after {moves : List Move} (h : (w.after moves).Few) : w.Few := by
  intro name
  obtain ⟨log, evolves⟩ := w.evolves_after moves
  exact Nat.le_trans (evolves.writes_le name) (h name)

/-- A move keeps a world steady. -/
theorem Steady.step (h : w.Steady) (m : Move) (few : (w.step m).Few) : (w.step m).Steady := by
  obtain ⟨log, evolves⟩ := w.evolves_step m
  have sound := h.sound.of_evolves evolves
  -- Whoever moves, the others stay in their phases, and so would the one that moves.
  have kept : ∀ r ∈ w.running, r.client.Phase (w.step m).store r.program := fun r hr =>
    (h.phase r hr).of_evolves evolves (few _)
  cases m with
  | other r => exact ⟨sound, kept, h.bare, h.canonical⟩
  | client i =>
    cases hi : w.running[i]? with
    | none =>
      rw [step_client_of_none hi]
      exact h
    | some r =>
      have hr := List.mem_of_getElem? hi
      have stepped := (UpdateClient.step_cases (h.bare r hr) (h.canonical r hr) ⟨w.server, none⟩
        (h.phase r hr) h.sound).1
      rw [step_client hi] at sound kept few ⊢
      refine ⟨sound, ?_, ?_, ?_⟩
      all_goals
        intro r' hr'
        obtain hr' | rfl := List.mem_or_eq_of_mem_set hr'
      · exact kept r' hr'
      · exact stepped (few _)
      · exact h.bare r' hr'
      · exact h.bare r hr
      · exact h.canonical r' hr'
      · exact h.canonical r hr

theorem Steady.after (h : w.Steady) (moves : List Move) (few : (w.after moves).Few) :
    (w.after moves).Steady := by
  induction moves generalizing w with
  | nil => exact h
  | cons m moves ih => exact ih (h.step m (Few.of_after (w := w.step m) few)) few

theorem steady_start {server : Server} {clients : List UpdateClient} (sound : server.store.Sound)
    (bare : ∀ c ∈ clients, Loopback.Bare c.http.base)
    (canonical : ∀ c ∈ clients, c.updater.codec.Canonical) : (start server clients).Steady := by
  refine ⟨sound, ?_, ?_, ?_⟩
  all_goals
    intro r hr
    obtain ⟨c, hc, rfl⟩ := List.mem_map.1 hr
  · exact UpdateClient.phase_program
  · exact bare c hc
  · exact canonical c hc

/-! ## One update in a run -/

/-- Whether no document was changed. -/
def Untouched (w w' : World) : Prop :=
  ∀ name id, w'.store.document? name id = w.store.document? name id

/-- Whether no step of the client at a place changed a document. -/
def Idle (w : World) (moves : List Move) (i : Nat) : Prop :=
  ∀ before rest, moves = before ++ .client i :: rest →
    Untouched (w.after before) (w.after (before ++ [.client i]))

/-- Whether the client at a place made its change in exactly one of its steps. -/
def Commits (w : World) (moves : List Move) (i : Nat) (c : UpdateClient) (u : Updated) : Prop :=
  ∃ before rest, moves = before ++ .client i :: rest ∧
    c.Replaces u (w.after before).store (w.after (before ++ [.client i])).store ∧
    ∀ before' rest', moves = before' ++ .client i :: rest' → before' ≠ before →
      Untouched (w.after before') (w.after (before' ++ [.client i]))

variable {i : Nat} {c : UpdateClient} {p : Program (Except ClientError Updated)}

/-- A move changes no document for a client, or it is the client's own and replaces its
document. -/
theorem Steady.step_cases (h : w.Steady) (hi : w.running[i]? = some ⟨c, p⟩) (m : Move) :
    ∃ p', (w.step m).running[i]? = some ⟨c, p'⟩ ∧
      ((∀ u, p' = .done (.ok u) ↔ p = .done (.ok u)) ∧ (m = .client i → Untouched w (w.step m)) ∨
        m = .client i ∧ ∃ u, p' = .done (.ok u) ∧ (∀ u, p ≠ .done (.ok u)) ∧
          c.Replaces u w.store (w.step m).store) := by
  cases m with
  | other r => exact ⟨p, hi, .inl ⟨fun _ => Iff.rfl, by simp⟩⟩
  | client j =>
    by_cases hj : j = i
    · subst hj
      have hr := List.mem_of_getElem? hi
      have stepped := (UpdateClient.step_cases (h.bare _ hr) (h.canonical _ hr) ⟨w.server, none⟩
        (h.phase _ hr) h.sound).2
      have place : j < w.running.length := (List.getElem?_eq_some_iff.1 hi).1
      rw [step_client hi]
      refine ⟨(p.step (Loopback.transport c.http) ⟨w.server, none⟩).1,
        List.getElem?_set_self place, ?_⟩
      obtain ⟨quiet, same⟩ | ⟨u, ended, begun, replaces⟩ := stepped
      · exact .inl ⟨same, fun _ name id => quiet.same name id rfl⟩
      · exact .inr ⟨rfl, u, ended, fun u => begun (.ok u), replaces⟩
    · refine ⟨p, ?_, .inl ⟨fun _ => Iff.rfl, ?_⟩⟩
      · cases hj' : w.running[j]? with
        | none =>
          rw [step_client_of_none hj']
          exact hi
        | some r =>
          rw [step_client hj']
          simp only [List.getElem?_set_ne hj, hi]
      · intro same
        exact absurd (Move.client.inj same) hj

/-- A run that goes on after a move in which the client changes nothing. -/
theorem Idle.cons {moves : List Move} {m : Move} (first : m = .client i → Untouched w (w.step m))
    (others : (w.step m).Idle moves i) : w.Idle (m :: moves) i := by
  intro before rest split
  obtain ⟨rfl, hm⟩ | ⟨before', rfl, hm⟩ := List.cons_eq_append_iff.1 split
  · obtain ⟨rfl, -⟩ := List.cons.inj hm
    exact first rfl
  · exact others before' rest hm

theorem Commits.cons {moves : List Move} {m : Move} {u : Updated}
    (first : m = .client i → Untouched w (w.step m)) (others : (w.step m).Commits moves i c u) :
    w.Commits (m :: moves) i c u := by
  obtain ⟨before, rest, split, replaces, idle⟩ := others
  refine ⟨m :: before, rest, by rw [split, List.cons_append], replaces, ?_⟩
  intro before' rest' split' hne
  obtain ⟨rfl, hm⟩ | ⟨before'', rfl, hm⟩ := List.cons_eq_append_iff.1 split'
  · obtain ⟨rfl, -⟩ := List.cons.inj hm
    exact first rfl
  · exact idle before'' rest' hm fun same => hne (by rw [same])

theorem commits_cons_self {moves : List Move} {u : Updated}
    (first : c.Replaces u w.store (w.step (.client i)).store)
    (others : (w.step (.client i)).Idle moves i) : w.Commits (.client i :: moves) i c u := by
  refine ⟨[], moves, rfl, first, ?_⟩
  intro before rest split hne
  obtain ⟨rfl, -⟩ | ⟨before', rfl, hm⟩ := List.cons_eq_append_iff.1 split
  · exact absurd rfl hne
  · exact others before' rest hm

/-- A run changes nothing for a client, or the client is acknowledged in it for the first time and
makes its change in exactly one step. -/
theorem Steady.after_cases (h : w.Steady) (hi : w.running[i]? = some ⟨c, p⟩) (moves : List Move)
    (few : (w.after moves).Few) :
    ∃ p', (w.after moves).running[i]? = some ⟨c, p'⟩ ∧
      ((∀ u, p' = .done (.ok u) ↔ p = .done (.ok u)) ∧ w.Idle moves i ∨
        ∃ u, p' = .done (.ok u) ∧ (∀ u, p ≠ .done (.ok u)) ∧ w.Commits moves i c u) := by
  induction moves generalizing w p with
  | nil => exact ⟨p, hi, .inl ⟨fun _ => Iff.rfl, by simp [Idle]⟩⟩
  | cons m moves ih =>
    have steady := h.step m (Few.of_after (w := w.step m) few)
    obtain ⟨p₁, hi₁, first⟩ := h.step_cases hi m
    obtain ⟨p', hi', others⟩ := ih steady hi₁ few
    refine ⟨p', hi', ?_⟩
    obtain ⟨same, quiet⟩ | ⟨rfl, u, rfl, begun, replaces⟩ := first
    · obtain ⟨same', idle⟩ | ⟨u, ended, begun, commits⟩ := others
      · exact .inl ⟨fun u => (same' u).trans (same u), .cons quiet idle⟩
      · exact .inr ⟨u, ended, fun u h => begun u ((same u).2 h), .cons quiet commits⟩
    -- After the acknowledgement the program is over, so it is not acknowledged again.
    · obtain ⟨same', idle⟩ | ⟨u', ended, begun', -⟩ := others
      · exact .inr ⟨u, (same' u).2 rfl, begun, commits_cons_self replaces idle⟩
      · exact absurd rfl (begun' u)

end World

end VersionedStore
