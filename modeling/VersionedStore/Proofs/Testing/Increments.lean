import Mathlib.Logic.Function.Iterate
import VersionedStore.Proofs.Client.Concurrent
import VersionedStore.Proofs.Testing.Note

/-!
# Increments of one counter

Clients that all make one and the same change to a document apply it as often as they are
acknowledged, whoever else works on other documents meanwhile. So no increment of a counter is
lost, and none counts twice.

## Main definitions

* `UpdateClient.Makes` — a client makes the one change of the one document
* `World.value?`, `World.acknowledged` — what the document is, and how many changes of it were
  acknowledged

## Main results

* `Note.canonical_codec` — the codec of notes sees their values alone
* `World.Steady.value_after` — the change was applied as often as it was acknowledged
* `World.updates_atomic` — no update is lost, and no increment of a counter
-/

namespace VersionedStore

open Json

/-- The codec of notes sees their values alone. -/
theorem Note.canonical_codec : Note.codec.Canonical where
  encoded := by
    intro n payload v encoded parsed
    obtain rfl := Except.ok.inj encoded
    rw [n.parseSource_encode] at parsed
    rw [← Except.ok.inj parsed, n.decode_value]
  reread := by
    intro bytes v level v' parsed again
    obtain ⟨ms, rfl, ascending, -⟩ := Store.object_of_parseSource parsed
    exact Note.decode_reread ascending again

theorem Note.incremented_iterate (n : Note) (k : Nat) :
    Note.incremented^[k] n = ⟨n.title, n.count + UInt64.ofNat k⟩ := by
  induction k with
  | zero => simp
  | succ k ih =>
    rw [Function.iterate_succ_apply', ih, incremented, UInt64.ofNat_add, ← UInt64.add_assoc]
    rfl

theorem Server.sound_after {s : Server} (h : s.store.Sound) (requests : List Request) :
    (s.after requests).store.Sound := by
  induction requests generalizing s with
  | nil => exact h
  | cons r requests ih =>
    obtain ⟨log, evolves⟩ := s.evolves_handle r
    exact ih (h.of_evolves evolves)

/-! ## One change made by all -/

variable {α : Type} (codec : Codec α) (change : α → α) (index id : String)

/-- A client makes the one change of the one document. -/
def UpdateClient.Makes (c : UpdateClient) : Prop :=
  ∃ http refresh limit, c = ⟨α, http, ⟨codec, index, refresh, limit⟩, id, change⟩

/-- Whether a client is on the one document and was acknowledged. -/
def Running.isAcknowledged (r : Running) : Bool :=
  r.client.updater.index == index && r.client.id == id &&
    match r.program with
    | .done (.ok _) => true
    | _ => false

namespace Running

variable {index id} {r : Running}

theorem isAcknowledged_iff : r.isAcknowledged index id = true ↔
    (r.client.updater.index = index ∧ r.client.id = id) ∧ ∃ u, r.program = .done (.ok u) := by
  rw [isAcknowledged, Bool.and_eq_true, Bool.and_eq_true, beq_iff_eq, beq_iff_eq]
  refine and_congr_right fun _ => ?_
  split
  · next u h => simp [h]
  · next h => simpa using h

theorem isAcknowledged_congr {r' : Running} (client : r'.client = r.client)
    (h : ∀ u, r'.program = .done (.ok u) ↔ r.program = .done (.ok u)) :
    r'.isAcknowledged index id = r.isAcknowledged index id := by
  rw [Bool.eq_iff_iff, isAcknowledged_iff, isAcknowledged_iff, client]
  simp only [h]

theorem isAcknowledged_of_ne (h : ∀ u, r.program ≠ .done (.ok u)) :
    r.isAcknowledged index id = false := by
  rw [Bool.eq_false_iff, ne_eq, isAcknowledged_iff]
  rintro ⟨-, u, ended⟩
  exact h u ended

end Running

namespace World

/-- What the document is. -/
def value? (w : World) : Option (Except ClientError α) :=
  (w.store.document? index id).map fun d => codec.decode d.source.write

/-- How many changes of the document were acknowledged. -/
def acknowledged (w : World) : Nat := w.running.countP (Running.isAcknowledged index id)

/-- Whether all clients on the document make the one change. -/
def Uniform (w : World) : Prop :=
  ∀ r ∈ w.running, r.client.updater.index = index → r.client.id = id →
    r.client.Makes codec change index id

/-- Whether nobody but the clients changes the document. -/
def Exclusive (w : World) (moves : List Move) : Prop :=
  ∀ before r rest, moves = before ++ .other r :: rest →
    (w.after (before ++ [.other r])).store.document? index id =
      (w.after before).store.document? index id

variable {codec change index id} {w : World} {i : Nat} {r r' : Running}

theorem running_step_client (h : w.running[i]? = some r)
    (h' : (w.step (.client i)).running[i]? = some r') :
    (w.step (.client i)).running = w.running.set i r' := by
  rw [step_client h] at h' ⊢
  rw [List.getElem?_set_self (List.getElem?_eq_some_iff.1 h).1] at h'
  rw [Option.some.inj h']

variable (index id) in
/-- An acknowledgement more or less makes all the difference to their number. -/
theorem acknowledged_step (h : w.running[i]? = some r)
    (h' : (w.step (.client i)).running[i]? = some r') :
    (w.step (.client i)).acknowledged index id + (r.isAcknowledged index id).toNat =
      w.acknowledged index id + (r'.isAcknowledged index id).toNat := by
  obtain ⟨place, hr⟩ := List.getElem?_eq_some_iff.1 h
  rw [acknowledged, acknowledged, running_step_client h h', List.countP_set place, hr]
  cases before : r.isAcknowledged index id with
  | false => cases r'.isAcknowledged index id <;> simp
  | true =>
    have some : 0 < w.running.countP (Running.isAcknowledged index id) :=
      List.countP_pos_iff.2 ⟨r, List.mem_of_getElem? h, before⟩
    cases r'.isAcknowledged index id <;> simp <;> omega

theorem Uniform.step (h : w.Uniform codec change index id) (m : Move) :
    (w.step m).Uniform codec change index id := by
  cases m with
  | other r => exact h
  | client i =>
    cases hi : w.running[i]? with
    | none =>
      rw [step_client_of_none hi]
      exact h
    | some r =>
      rw [step_client hi]
      intro r' hr'
      obtain hr' | rfl := List.mem_or_eq_of_mem_set hr'
      · exact h r' hr'
      · exact h r (List.mem_of_getElem? hi)

theorem value?_congr {w' : World}
    (h : w'.store.document? index id = w.store.document? index id) :
    w'.value? codec index id = w.value? codec index id := by
  rw [value?, h, value?]

/-- Who replaces the document makes the change. -/
theorem Uniform.value_replaces (h : w.Uniform codec change index id) {w' : World}
    {c : UpdateClient} {p : Program (Except ClientError Updated)} {u : Updated}
    (hc : ⟨c, p⟩ ∈ w.running) (target : c.updater.index = index ∧ c.id = id)
    (replaces : c.Replaces u w.store w'.store) {a : α}
    (value : w.value? codec index id = some (.ok a)) :
    w'.value? codec index id = some (.ok (change a)) := by
  obtain ⟨http, refresh, limit, rfl⟩ := h _ hc target.1 target.2
  obtain ⟨old, new, a', hold, decoded, hnew, changed, -⟩ := replaces
  have before : w.store.document? index id = some old := hold
  have after : w'.store.document? index id = some new := hnew
  rw [value?, before, Option.map_some, Option.some.injEq] at value
  obtain rfl := Except.ok.inj (value.symm.trans decoded)
  rw [value?, after, Option.map_some]
  exact congrArg some changed

/-- Who replaces another document leaves this one as it is. -/
theorem value?_of_elsewhere {w' : World} {c : UpdateClient} {u : Updated}
    (target : ¬(c.updater.index = index ∧ c.id = id)) (replaces : c.Replaces u w.store w'.store) :
    w'.value? codec index id = w.value? codec index id := by
  obtain ⟨-, -, -, -, -, -, -, -, others⟩ := replaces
  refine value?_congr (others index id ?_)
  intro same
  obtain ⟨sameIndex, sameId⟩ := Prod.mk.inj same
  exact target ⟨sameIndex.symm, sameId.symm⟩

/-- A move makes the change once if it is acknowledged, and else not at all. -/
theorem Steady.value_step (h : w.Steady) (uniform : w.Uniform codec change index id) (m : Move)
    (exclusive : ∀ r, m = .other r →
      (w.step m).store.document? index id = w.store.document? index id) {a : α}
    (value : w.value? codec index id = some (.ok a)) :
    ∃ k, (w.step m).value? codec index id = some (.ok (change^[k] a)) ∧
      (w.step m).acknowledged index id = w.acknowledged index id + k := by
  cases m with
  | other r => exact ⟨0, by rw [value?_congr (exclusive r rfl)]; exact value, rfl⟩
  | client i =>
    cases hi : w.running[i]? with
    | none =>
      rw [step_client_of_none hi]
      exact ⟨0, value, rfl⟩
    | some r =>
      obtain ⟨c, p⟩ := r
      obtain ⟨p', hi', outcome⟩ := h.step_cases hi (.client i)
      have count := acknowledged_step index id hi hi'
      obtain ⟨same, quiet⟩ | ⟨-, u, rfl, begun, replaces⟩ := outcome
      · -- A step that changes nothing acknowledges nothing either.
        have unchanged : Running.isAcknowledged index id ⟨c, p'⟩ =
            Running.isAcknowledged index id ⟨c, p⟩ := Running.isAcknowledged_congr rfl same
        rw [unchanged] at count
        refine ⟨0, ?_, Nat.add_right_cancel count⟩
        rw [value?_congr (quiet rfl index id)]
        exact value
      · rw [Running.isAcknowledged_of_ne (r := ⟨c, p⟩) begun] at count
        by_cases target : c.updater.index = index ∧ c.id = id
        · have counted : Running.isAcknowledged index id ⟨c, .done (.ok u)⟩ = true :=
            Running.isAcknowledged_iff.2 ⟨target, u, rfl⟩
          rw [counted] at count
          exact ⟨1, uniform.value_replaces (List.mem_of_getElem? hi) target replaces value, count⟩
        · have notCounted : Running.isAcknowledged index id ⟨c, .done (.ok u)⟩ = false := by
            rw [Bool.eq_false_iff, ne_eq, Running.isAcknowledged_iff]
            exact fun holds => target holds.1
          rw [notCounted] at count
          refine ⟨0, ?_, count⟩
          rw [value?_of_elsewhere target replaces]
          exact value

theorem exclusive_cons {m : Move} {moves : List Move} : w.Exclusive index id (m :: moves) ↔
    (∀ r, m = .other r → (w.step m).store.document? index id = w.store.document? index id) ∧
      (w.step m).Exclusive index id moves := by
  constructor
  · intro h
    refine ⟨?_, fun before r rest split => ?_⟩
    · rintro r rfl
      exact h [] r moves rfl
    · exact h (m :: before) r rest (by rw [split, List.cons_append])
  · rintro ⟨first, others⟩ before r rest split
    obtain ⟨rfl, hm⟩ | ⟨before', rfl, hm⟩ := List.cons_eq_append_iff.1 split
    · obtain ⟨rfl, -⟩ := List.cons.inj hm
      exact first r rfl
    · exact others before' r rest hm

/-- In every run the change is made as often as it is acknowledged. -/
theorem Steady.value_after (h : w.Steady) (uniform : w.Uniform codec change index id)
    (moves : List Move) (exclusive : w.Exclusive index id moves) (few : (w.after moves).Few) {a : α}
    (value : w.value? codec index id = some (.ok a)) :
    ∃ k, (w.after moves).value? codec index id = some (.ok (change^[k] a)) ∧
      (w.after moves).acknowledged index id = w.acknowledged index id + k := by
  induction moves generalizing w a with
  | nil => exact ⟨0, value, rfl⟩
  | cons m moves ih =>
    have steady := h.step m (Few.of_after (w := w.step m) few)
    obtain ⟨alone, exclusive⟩ := exclusive_cons.1 exclusive
    obtain ⟨k, first, count⟩ := h.value_step uniform m alone value
    obtain ⟨l, others, total⟩ := ih steady (uniform.step m) exclusive few first
    refine ⟨l + k, ?_, ?_⟩
    · rw [Function.iterate_add_apply]
      exact others
    · rw [count] at total
      rw [show w.after (m :: moves) = (w.step m).after moves from rfl, total]
      omega

theorem acknowledged_start (server : Server) (clients : List UpdateClient) :
    (start server clients).acknowledged index id = 0 := by
  rw [acknowledged, List.countP_eq_zero]
  intro r hr
  obtain ⟨c, -, rfl⟩ := List.mem_map.1 hr
  rw [Running.isAcknowledged_of_ne (UpdateClient.rounds_ne_ok _ _)]
  exact Bool.false_ne_true

/-- Whatever came before, and however the steps of the clients and other requests are mixed, as long
as no index counts more than 2⁶⁴ operations: an update that is acknowledged has replaced the live
document by its change in exactly one of its steps and changed nothing else, and one that is not
acknowledged has changed nothing. So where all clients of a note increment its counter and nobody
else changes it, the counter grows by the number of acknowledged updates. -/
theorem updates_atomic (config : StoreConfig) {ids handles : NameSupply} (requests : List Request)
    {clients : List UpdateClient} (bare : ∀ c ∈ clients, Loopback.Bare c.http.base)
    (canonical : ∀ c ∈ clients, c.updater.codec.Canonical) (moves : List Move)
    (few : ((start ((Server.empty config ids handles).after requests) clients).after moves).Few) :
    let w := start ((Server.empty config ids handles).after requests) clients
    (∀ i c, clients[i]? = some c → ∃ p, (w.after moves).running[i]? = some ⟨c, p⟩ ∧
      (∀ u, p = .done (.ok u) → w.Commits moves i c u) ∧
      ((∀ u, p ≠ .done (.ok u)) → w.Idle moves i)) ∧
    ∀ index id, w.Uniform Note.codec Note.incremented index id → w.Exclusive index id moves →
      ∀ n, w.value? Note.codec index id = some (.ok n) →
        n.count.toNat + (w.after moves).acknowledged index id < UInt64.size →
        ∃ n', (w.after moves).value? Note.codec index id = some (.ok n') ∧ n'.title = n.title ∧
          n'.count.toNat = n.count.toNat + (w.after moves).acknowledged index id := by
  intro w
  have sound := Server.sound_after (s := .empty config ids handles) (Store.sound_empty config)
    requests
  have steady : w.Steady := steady_start sound bare canonical
  constructor
  · intro i c hi
    have begun : w.running[i]? = some ⟨c, c.program⟩ := by
      simp [w, start, hi]
    obtain ⟨p, hp, outcome⟩ := steady.after_cases begun moves few
    refine ⟨p, hp, ?_⟩
    obtain ⟨same, idle⟩ | ⟨u, rfl, -, commits⟩ := outcome
    · refine ⟨fun u ended => ?_, fun _ => idle⟩
      exact absurd ((same u).1 ended) (UpdateClient.rounds_ne_ok _ _ u)
    · refine ⟨fun u' ended => ?_, fun never => absurd rfl (never u)⟩
      obtain rfl := Except.ok.inj (Program.done.inj ended)
      exact commits
  · intro index id uniform exclusive n value fits
    obtain ⟨k, final, count⟩ := steady.value_after uniform moves exclusive few value
    rw [acknowledged_start, Nat.zero_add] at count
    rw [count] at fits ⊢
    rw [Note.incremented_iterate] at final
    refine ⟨_, final, rfl, ?_⟩
    rw [UInt64.toNat_add, UInt64.toNat_ofNat_of_lt' (show k < UInt64.size by omega),
      Nat.mod_eq_of_lt fits]

/-- A client that makes one attempt to increment a counter. -/
def counting : UpdateClient :=
  ⟨Note, ⟨"http://a", HttpConfig.standardTimeout⟩, ⟨Note.codec, "b", .none, 1⟩, "c",
    Note.incremented⟩

/-- Two clients are about to increment a counter that is at five. -/
def contest : World :=
  start ((Server.empty {}).after [⟨"PUT", "/b/_doc/c", (Note.mk "d" 5).toText.write⟩])
    [counting, counting]

/-- Both clients read the counter before either of them writes it. -/
def race : List Move :=
  [.client 0, .client 1, .other ⟨"GET", "/b/_doc/c", []⟩, .client 0, .client 1]

private theorem outcome_race :
    (contest.after race).store.indices.toList.map (fun e => (e.1, e.2.writes)) = [("b", 2)] ∧
      (contest.after race).running.map (Running.isAcknowledged "b" "c") = [true, false] := by
  decide +kernel

private theorem acknowledged_race {i : Nat} {r : Running}
    (h : (contest.after race).running[i]? = some r) :
    [true, false][i]? = some (r.isAcknowledged "b" "c") := by
  rw [← outcome_race.2, List.getElem?_map, h, Option.map_some]

private theorem value_contest : contest.value? Note.codec "b" "c" = some (.ok ⟨"d", 5⟩) := by
  have found : (contest.value? Note.codec "b" "c").map Except.toOption = some (some ⟨"d", 5⟩) := by
    decide +kernel
  obtain ⟨r, hr, same⟩ := Option.map_eq_some_iff.1 found
  cases r with
  | error e => simp [Except.toOption] at same
  | ok n =>
    obtain rfl := Option.some.inj same
    exact hr

private theorem few_race : (contest.after race).Few := by
  intro name
  rw [Store.writes_eq_find?, outcome_race.1, Entries.find?, Entries.find?]
  split <;> decide

private theorem exclusive_race : contest.Exclusive "b" "c" race := by
  refine exclusive_cons.2 ⟨nofun, exclusive_cons.2 ⟨nofun, exclusive_cons.2 ⟨?_,
    exclusive_cons.2 ⟨nofun, exclusive_cons.2 ⟨nofun, ?_⟩⟩⟩⟩⟩
  · -- The request in between is to read, whatever the world is by then.
    intro r _
    generalize (contest.step (.client 0)).step (.client 1) = w
    exact (w.server.evolves_handle_get [] "/b/_doc/c").same "b" "c" rfl
  · intro before r rest split
    simp at split

private theorem count_race : (contest.after race).acknowledged "b" "c" = 1 := by
  have count : ((contest.after race).running.map (Running.isAcknowledged "b" "c")).countP id =
      (contest.after race).acknowledged "b" "c" := List.countP_map
  rw [← count, outcome_race.2]
  rfl

/-- The first client is acknowledged and the second one is not; one increment is counted, and the
second client has changed nothing. -/
theorem updates_race :
    (Loopback.Bare counting.http.base ∧ counting.updater.codec.Canonical ∧
        (contest.after race).Few) ∧
      (contest.Uniform Note.codec Note.incremented "b" "c" ∧ contest.Exclusive "b" "c" race ∧
        contest.value? Note.codec "b" "c" = some (.ok ⟨"d", 5⟩)) ∧
      (∃ u, contest.Commits race 0 counting u) ∧ contest.Idle race 1 ∧
      ∃ n, (contest.after race).value? Note.codec "b" "c" = some (.ok n) ∧ n.title = "d" ∧
        n.count.toNat = 5 + 1 := by
  have bare : Loopback.Bare counting.http.base := ⟨"a".toList, by decide +kernel, by decide⟩
  have canonical : counting.updater.codec.Canonical := Note.canonical_codec
  have all : ∀ c ∈ [counting, counting], c = counting := by simp
  have uniform : contest.Uniform Note.codec Note.incremented "b" "c" := by
    intro r hr _ _
    obtain ⟨c, hc, rfl⟩ := List.mem_map.1 hr
    exact ⟨_, _, _, all c hc⟩
  obtain ⟨each, counter⟩ := updates_atomic {}
    [⟨"PUT", "/b/_doc/c", (Note.mk "d" 5).toText.write⟩]
    (fun c hc => by rw [all c hc]; exact bare) (fun c hc => by rw [all c hc]; exact canonical)
    race few_race
  obtain ⟨p, hp, commits, -⟩ := each 0 counting rfl
  obtain ⟨q, hq, -, idle⟩ := each 1 counting rfl
  refine ⟨⟨bare, canonical, few_race⟩, ⟨uniform, exclusive_race, value_contest⟩, ?_, ?_, ?_⟩
  · have yes : true = Running.isAcknowledged "b" "c" ⟨counting, p⟩ :=
      Option.some.inj (acknowledged_race hp)
    obtain ⟨-, u, ended⟩ := Running.isAcknowledged_iff.1 yes.symm
    exact ⟨u, commits u ended⟩
  · have no : false = Running.isAcknowledged "b" "c" ⟨counting, q⟩ :=
      Option.some.inj (acknowledged_race hq)
    refine idle fun u ended => ?_
    have yes : Running.isAcknowledged "b" "c" ⟨counting, q⟩ = true :=
      Running.isAcknowledged_iff.2 ⟨⟨rfl, rfl⟩, u, ended⟩
    exact Bool.false_ne_true (no.trans yes)
  · have fits : (5 : UInt64).toNat + (contest.after race).acknowledged "b" "c" < UInt64.size := by
      rw [count_race]
      decide
    rw [← count_race]
    exact counter "b" "c" uniform exclusive_race ⟨"d", 5⟩ value_contest fits

end World

end VersionedStore
