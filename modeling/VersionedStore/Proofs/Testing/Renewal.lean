import VersionedStore.Proofs.Client.Undisturbed
import VersionedStore.Testing.Contention

/-!
# Documents that are written again

The other writer reads a document and writes it again as it was shown. The document gets a new
version and nothing else happens to the store. As each version of an index is made only once, no
version that was made before is the one of such a document.

## Main definitions

* `Store.renew`, `Store.renewAll` — a document, and several ones, are written again
* `Store.Renews` — what becomes of a store in which documents are written again

## Main results

* `Store.exists_renews` — what it means to write documents again
* `Contention.run_interfereAll` — this is what the other writer does
-/

namespace VersionedStore

open Json

/-! ## Stores -/

namespace Store

/-- A document is written again as it is shown, if there is one. -/
def renew (s : Store) (target : String × String) : Store :=
  match s.document? target.1 target.2 with
  | none => s
  | some d => (s.write target.1 (some target.2) .index none d.source.reread.write .none).2

/-- Documents are written again, one after the other. -/
def renewAll (s : Store) (targets : List (String × String)) : Store := targets.foldl renew s

/-- A store becomes another one in which documents were written again: those that were there have
new versions, of which the receipts tell, and nest no deeper than before. -/
structure Renews (s : Store) (targets : List (String × String)) (log : List Receipt) (s' : Store) :
    Prop where
  reaches : s.Reaches log s'
  few : log.length ≤ targets.length
  live : ∀ name id, (s'.document? name id).isSome = (s.document? name id).isSome
  shallow : ∀ name id limit, (∀ d, s.document? name id = some d → d.source.depth ≤ limit) →
    ∀ d, s'.document? name id = some d → d.source.depth ≤ limit
  about : ∀ name id, (∃ r ∈ log, r.concerns name id = true) ↔
    (name, id) ∈ targets ∧ (s.document? name id).isSome = true

namespace Renews

variable {s s' s'' : Store} {targets : List (String × String)} {target : String × String}
  {log more : List Receipt}

theorem refl (s : Store) : s.Renews [] [] s where
  reaches := .refl s
  few := Nat.le_refl _
  live _ _ := rfl
  shallow _ _ _ h := h
  about name id := by simp

theorem cons (h : s.Renews [target] log s') (h' : s'.Renews targets more s'') :
    s.Renews (target :: targets) (log ++ more) s'' where
  reaches := h.reaches.trans h'.reaches
  few := by
    rw [List.length_append, List.length_cons, Nat.add_comm]
    exact Nat.add_le_add h'.few h.few
  live name id := (h'.live name id).trans (h.live name id)
  shallow name id limit shallow := h'.shallow name id limit (h.shallow name id limit shallow)
  about name id := by
    have rest := h'.about name id
    rw [h.live] at rest
    simp only [List.mem_append, or_and_right, exists_or, h.about name id, rest, List.mem_cons,
      List.not_mem_nil, or_false]

end Renews

variable {s : Store}

/-- Where one document is put, all others stay. -/
theorem document?_setIndex_insert (s : Store) (name id : String) (d : Document)
    (other key : String) :
    (s.setIndex name ((s.indexOrEmpty name).written
      ((s.indexOrEmpty name).live.insert id d))).document? other key =
        if other = name ∧ key = id then some d else s.document? other key := by
  rw [document?, indexOrEmpty_setIndex]
  by_cases here : other = name
  · subst here
    simp only [if_true, true_and, Index.written, Table.find?_insert, document?]
  · simp only [here, if_false, false_and, document?]

/-- A live document that is written again as it is shown is put under the next version. -/
theorem write_shown (sent : s.Sent) {name id : String} {d : Document}
    (live : s.document? name id = some d) :
    let r := s.write name (some id) .index none d.source.reread.write .none
    r.1 = .ok ⟨id, s.numbered (s.writes name), .updated⟩ ∧
      ∃ v, v.depth ≤ d.source.depth ∧ ∀ other key, r.2.document? other key =
        if other = name ∧ key = id then some ⟨s.numbered (s.writes name), v⟩
        else s.document? other key := by
  intro r
  obtain ⟨bytes, parsed⟩ := sent name id d (.inl live)
  obtain ⟨ms, object, proper⟩ := object_of_parseSource parsed
  have shallow := depth_le_of_parseSource parsed
  have again : d.source.reread.Proper :=
    Value.proper_of_parse? (Value.parse?_write_of_proper proper shallow)
  have less := Value.depth_reread_le proper
  have payload : parseSource d.source.reread.write = .ok d.source.reread.reread := by
    rw [parseSource, Value.parse?_write_of_proper again (less.trans shallow), object]
    rfl
  have current : (s.indexOrEmpty name).current id none = .ok (some d) := by
    rw [Index.current, ← live]
    rfl
  have written : r = (.ok ⟨id, s.numbered (s.writes name), .updated⟩,
      s.setIndex name ((s.indexOrEmpty name).written ((s.indexOrEmpty name).live.insert id
        ⟨s.numbered (s.writes name), d.source.reread.reread⟩))) := by
    simp only [r, write, address, Action.Kind.mode?, payload, writeAt, change, Index.put, current]
    rfl
  rw [written]
  exact ⟨rfl, _, (Value.depth_reread_le again).trans less,
    s.document?_setIndex_insert name id _⟩

theorem renews_renew (sent : s.Sent) (target : String × String) :
    ∃ log, s.Renews [target] log (s.renew target) := by
  obtain ⟨name, id⟩ := target
  unfold renew
  cases live : s.document? name id with
  | none =>
    refine ⟨[], .refl s, Nat.zero_le _, fun _ _ => rfl, fun _ _ _ h => h, fun other key => ?_⟩
    refine iff_of_false (by simp) ?_
    rintro ⟨here, there⟩
    obtain ⟨rfl, rfl⟩ := Prod.mk.inj (List.mem_singleton.1 here)
    rw [live] at there
    cases there
  | some d =>
    obtain ⟨answer, v, deep, documents⟩ := write_shown sent live
    have reaches := s.reaches_write name (some id) .index none d.source.reread.write .none
    rw [answer] at reaches
    refine ⟨_, reaches, Nat.le_refl _, fun other key => ?_,
      fun other key limit shallow d' found => ?_, fun other key => ?_⟩
    · rw [documents]
      split
      · next same => rw [same.1, same.2, live]; rfl
      · rfl
    · rw [documents] at found
      split at found
      · next same =>
        rw [same.1, same.2] at shallow
        rw [← Option.some.inj found]
        exact deep.trans (shallow d live)
      · exact shallow d' found
    · simp only [Receipt.ofAnswer, List.mem_singleton, exists_eq_left, Receipt.concerns,
        Bool.and_eq_true, beq_iff_eq, Prod.mk.injEq]
      constructor
      · rintro ⟨rfl, rfl⟩
        exact ⟨⟨rfl, rfl⟩, by rw [live]; rfl⟩
      · rintro ⟨⟨rfl, rfl⟩, -⟩
        exact ⟨rfl, rfl⟩

theorem exists_renews (sent : s.Sent) (targets : List (String × String)) :
    ∃ log, s.Renews targets log (s.renewAll targets) := by
  induction targets generalizing s with
  | nil => exact ⟨[], .refl s⟩
  | cons target targets ih =>
    obtain ⟨log, first⟩ := renews_renew sent target
    obtain ⟨more, rest⟩ := ih (first.reaches.sent sent)
    exact ⟨log ++ more, first.cons rest⟩

end Store

/-! ## The other writer -/

namespace Contention

variable {config : HttpConfig} (bare : Loopback.Bare config.base)
  {s : Http.Connection Server} (sent : s.client.store.Sent)

include bare sent

/-- The other writer writes a document again, if there is one. -/
theorem run_rewrite {name id : String} (named : name ≠ "") (known : id ≠ "")
    (shallow : ∀ d, s.client.store.document? name id = some d → d.source.depth ≤ 126) :
    (rewrite name id).run (Loopback.transport config) s =
      (.ok (s.client.store.document? name id).isSome,
        ⟨{ s.client with store := s.client.store.renew (name, id) }, none⟩) := by
  rw [rewrite, Program.run, Store.renew]
  cases live : s.client.store.document? name id with
  | none =>
    rw [Loopback.transport_get_missing bare named known live]
    rfl
  | some d =>
    rw [Loopback.transport_get_live bare sent named known live (shallow d live)]
    obtain ⟨arrives, after⟩ := Loopback.transparent_write bare (s := ⟨s.client, none⟩) named
      (w := .put (some id) d.source.reread.write) (fun empty => known (Option.some.inj empty))
    obtain ⟨answer, -⟩ := Store.write_shown sent live
    simp only [StoreCall.apply, WriteRequest.put, Option.isSome_some, ↓reduceIte, WriteMode.kind,
      answer] at arrives after
    simp only [Program.run, WriteRequest.put, arrives.eq_answer, after]
    rfl

/-- The other writer writes all documents again that are there. -/
theorem run_interfereAll {targets : List (String × String)} (n : Nat)
    (addressed : ∀ t ∈ targets, t.1 ≠ "" ∧ t.2 ≠ "" ∧
      ∀ d, s.client.store.document? t.1 t.2 = some d → d.source.depth ≤ 126) :
    ∃ last, (interfereAll ⟨none, n⟩ targets).run (Loopback.transport config) s =
      ((.ok (), ⟨none, n + targets.countP fun t => (s.client.store.document? t.1 t.2).isSome⟩),
        ⟨{ s.client with store := s.client.store.renewAll targets }, last⟩) := by
  induction targets generalizing s n with
  | nil => exact ⟨s.lastError, rfl⟩
  | cons t targets ih =>
    obtain ⟨⟨named, known, shallow⟩, addressed⟩ := List.forall_mem_cons.1 addressed
    obtain ⟨log, first⟩ := Store.renews_renew sent t
    have run := run_rewrite bare sent named known shallow
    -- What is left to be written is as it was, up to versions.
    have interfered : (interfere ⟨none, n⟩ t.1 t.2).run (Loopback.transport config) s =
        ((.ok (), ⟨none, n + (s.client.store.document? t.1 t.2).isSome.toNat⟩),
          ⟨{ s.client with store := s.client.store.renew t }, none⟩) := by
      rw [interfere, takeTurn?, Program.run_bind, run]
      cases (s.client.store.document? t.1 t.2).isSome <;> rfl
    obtain ⟨last, rest⟩ := ih (s := ⟨{ s.client with store := s.client.store.renew t }, none⟩)
      (first.reaches.sent sent) (n + (s.client.store.document? t.1 t.2).isSome.toNat)
      fun t' ht' => ⟨(addressed t' ht').1, (addressed t' ht').2.1,
        first.shallow _ _ _ (addressed t' ht').2.2⟩
    have counted : n + (t :: targets).countP (fun t =>
        (s.client.store.document? t.1 t.2).isSome) =
          n + (s.client.store.document? t.1 t.2).isSome.toNat + targets.countP fun t =>
            (s.client.store.document? t.1 t.2).isSome := by
      rw [List.countP_cons, Nat.add_assoc, Nat.add_comm (List.countP _ _)]
      cases (s.client.store.document? t.1 t.2).isSome <;> rfl
    refine ⟨last, ?_⟩
    rw [counted, interfereAll, Program.run_bind, interfered]
    simp only [rest, first.live]
    rfl

end Contention

end VersionedStore
