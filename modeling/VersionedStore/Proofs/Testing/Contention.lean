import VersionedStore.Proofs.Testing.Renewal

/-!
# Contended calls

Behind the layer of another writer, who acts before each call that expects a version, no write that
expects a version of before the call is accepted, whether it is a call of its own or one of several
actions. The deletes among the actions of a bulk request are not contended: such a delete is
accepted as if there was no other writer, unless a write of the same request draws him to the
document.

## Main definitions

* `Call.Unguarded`, `Action.GuardedPut` — a call without guards, a put with one
* `Store.Issued` — an index made a version
* `Contention.Legible` — the other writer can read and write the documents that he has to
* `Contention.Conflicts` — a call fails by a conflict and changes nothing

## Main results

* `Store.Renews.version_iff` — which versions remain where documents are written again
* `Contention.guard_met_iff` — which guards are met behind the layer
* `Contention.delete_uncontended` — a guarded delete in a bulk request that is accepted
-/

namespace VersionedStore

open Json

/-! ## Calls without guards, and actions with one -/

/-- No part of a call expects a version. -/
def Call.Unguarded : Call → Prop
  | .bulk _ actions _ => ∀ a ∈ actions, a.version = none
  | .write _ w => w.required = none
  | .delete _ _ required _ => required = none
  | _ => True

/-- An action that puts a document in place of some version of it. -/
structure Action.GuardedPut (a : Action) (defaultIndex name id : String) : Prop where
  kind : a.kind = .index
  index : a.index.getD defaultIndex = name
  id : a.id = some id
  version : a.version.isSome = true

namespace Contention

theorem targets_of_unguarded {c : Call} (h : c.Unguarded) : targets c = [] := by
  cases c with
  | bulk index actions policy =>
    refine List.filterMap_eq_nil_iff.2 fun a ha => ?_
    simp only [target?, h a ha]
    cases a.kind <;> rfl
  | write index w =>
    obtain ⟨id, payload, required, mode, policy⟩ := w
    obtain rfl : required = none := h
    cases id <;> rfl
  | delete index id required policy =>
    obtain rfl : required = none := h
    rfl
  | get | search | advance | release | count | refresh => rfl

/-- A bulk request draws the other writer to the documents of its guarded puts. -/
theorem mem_targets_bulk_iff {index name id : String} {actions : List Action}
    {policy : RefreshPolicy} : (name, id) ∈ targets (.bulk index actions policy) ↔
      ∃ a ∈ actions, a.GuardedPut index name id := by
  rw [targets, List.mem_filterMap]
  refine exists_congr fun a => and_congr_right fun _ => ?_
  constructor
  · intro drawn
    unfold target? at drawn
    split at drawn
    · next kind v key hk hv hid =>
      obtain ⟨rfl, rfl⟩ := Prod.mk.inj (Option.some.inj drawn)
      exact ⟨hk, rfl, hid, by rw [hv]; rfl⟩
    · cases drawn
  · rintro ⟨hk, rfl, hid, expects⟩
    obtain ⟨v, hv⟩ := Option.isSome_iff_exists.1 expects
    simp only [target?, hk, hv, hid]

/-- A call without targets passes through. -/
theorem above_of_no_targets {σ : Type} {c : Call} (none : targets c = []) (t : Transport σ)
    (x : Contention) (s : σ) : layer.above t c (x, s) = ((t c s).1, x, (t c s).2) := by
  rw [Layer.above, layer, none]
  rfl

end Contention

/-! ## Guards and documents that are written again -/

namespace Store

variable {s s' : Store} {targets : List (String × String)} {log more : List Receipt}
  {name id : String} {v : Version}

/-- An index made a version before. -/
def Issued (s : Store) (name : String) (v : Version) : Prop :=
  ∃ n < s.writes name, v = s.numbered n

theorem Evolves.issued (h : s.Evolves log s') {r : Receipt} (hr : r ∈ log) :
    s'.Issued r.index r.version := by
  obtain ⟨n, -, small, made⟩ := h.number_of_mem hr
  exact ⟨n, small, by rw [made, h.numbered_eq]⟩

/-- An index that made a version is there. -/
theorem Issued.hasIndex (h : s.Issued name v) : s.hasIndex name = true := by
  obtain ⟨n, small, -⟩ := h
  rw [Store.hasIndex, Table.contains]
  cases missing : s.indices.find? name with
  | none =>
    rw [writes, indexOrEmpty, missing] at small
    exact absurd small (Nat.not_lt_zero n)
  | some ix => rfl

theorem Issued.of_evolves (h : s.Issued name v) (evolves : s.Evolves log s') :
    s'.Issued name v := by
  obtain ⟨n, small, made⟩ := h
  exact ⟨n, Nat.lt_of_lt_of_le small (evolves.writes_le name), by rw [made, evolves.numbered_eq]⟩

namespace Renews

variable (h : s.Renews targets log s') (issued : s.Issued name v)

include h issued

/-- A document has a version from before if it had it then, was not written again, and no operation
was about it later. -/
theorem version_iff {s'' : Store} (later : s'.Evolves more s'')
    (room : s.writes name + targets.length + more.length ≤ UInt64.size) :
    (s''.document? name id).map Document.version = some v ↔
      (s.document? name id).map Document.version = some v ∧ (name, id) ∉ targets ∧
        ∀ r ∈ more, r.concerns name id = false := by
  obtain ⟨n, small, rfl⟩ := issued
  have whole := h.reaches.evolves.trans later
  have few : s''.writes name ≤ UInt64.size := by
    have counted := List.length_filter_le (·.index == name) (log ++ more)
    have again := h.few
    rw [List.length_append] at counted
    rw [whole.counts]
    omega
  rw [whole.version_iff_untouched few small, List.forall_mem_append]
  refine and_congr_right fun version => and_congr_left fun _ => ?_
  -- The document is there, so it was written again if it is a target.
  have live : (s.document? name id).isSome = true := by
    rw [← Option.isSome_map (f := Document.version), version]
    rfl
  have about := h.about name id
  rw [and_iff_left live] at about
  rw [← about]
  simp

/-- A document that was written again has no version from before. -/
theorem version_ne (target : (name, id) ∈ targets)
    (room : s.writes name + targets.length ≤ UInt64.size) :
    (s'.document? name id).map Document.version ≠ some v := fun version =>
  ((h.version_iff issued (.refl s') (by simpa using room)).1 version).2.1 target

end Renews

/-- What decides a guarded action of a bulk request after documents were written again. -/
theorem Renews.bulk_guarded (h : s.Renews targets log s') (issued : s.Issued name v) {a : Action}
    {defaultIndex : Option String} (guarded : a.Guarded defaultIndex name id v)
    (before after : List Action) (refresh : RefreshPolicy)
    (few : before.length + after.length < s.config.maxActions)
    (room : s.writes name + targets.length + before.length ≤ UInt64.size) :
    ∃ items item others,
      (s'.bulk defaultIndex (before ++ a :: after) refresh).1 =
        .ok (.ofItems 0 (items ++ item :: others)) ∧
      items.length = before.length ∧
      (item.outcome.isSuccess = true ↔
        (s.document? name id).map Document.version = some v ∧ (name, id) ∉ targets ∧
          ∀ r ∈ items.filterMap Receipt.ofItem?, r.concerns name id = false) ∧
      (item.outcome.isSuccess = false → item.outcome.status = 409 ∧
        (∃ reason, item = ⟨a.kind, failure (some name) (some id) (.conflict id reason)⟩) ∧
        (s'.bulk defaultIndex (before ++ after) refresh).2.Alike
          (s'.bulk defaultIndex (before ++ a :: after) refresh).2) := by
  rw [← h.reaches.config] at few
  have earlier := (s'.reaches_applyAll defaultIndex before).evolves
  have length := s'.length_applyAll defaultIndex before
  have receipts := List.length_filterMap_le Receipt.ofItem? (s'.applyAll defaultIndex before).1
  have met : ((s'.applyAll defaultIndex before).2.document? name id).map Document.version =
      some v ↔ _ := h.version_iff issued earlier (by omega)
  obtain ⟨accepts, refuses⟩ := (s'.applyAll defaultIndex before).2.apply_guarded guarded
  refine ⟨_, _, _, s'.answer_bulk_around defaultIndex before after a few refresh, length, ?_, ?_⟩
  · rw [← met]
    constructor
    · intro success
      by_contra fails
      obtain ⟨reason, refused, -⟩ := refuses fails
      rw [refused, isSuccess_failure] at success
      cases success
    · intro holds
      obtain ⟨w, accepted⟩ := accepts holds
      rw [accepted, isSuccess_success]
  · intro failed
    obtain ⟨reason, refused, alike⟩ := refuses fun holds => by
      obtain ⟨w, accepted⟩ := accepts holds
      rw [accepted, isSuccess_success] at failed
      cases failed
    exact ⟨by rw [refused]; rfl, ⟨reason, refused⟩,
      s'.bulk_without defaultIndex before after a few refresh alike failed |>.2⟩

end Store

/-- A guarded action is one also after it was sent. -/
theorem Action.Guarded.printed {a : Action} {defaultIndex : Option String} {name id : String}
    {v : Version} (h : a.Guarded defaultIndex name id v) :
    (Passage.printed.action a).Guarded defaultIndex name id v where
  index := h.index
  id := h.id
  version := h.version
  kind := h.kind.imp_right fun ⟨kind, source, d, given, parsed⟩ => by
    have payload : ∃ d', Store.parseSource (Bulk.onOneLine source) = .ok d' := by
      rw [Bulk.onOneLine, Store.parse?_of_parseSource parsed]
      split
      · obtain ⟨ms, rfl, proper⟩ := Store.object_of_parseSource parsed
        refine ⟨(Value.object ms).reread, ?_⟩
        rw [Option.map_some, Option.getD_some, Store.parseSource,
          Value.parse?_write_of_proper proper (Store.depth_le_of_parseSource parsed)]
        rfl
      · exact ⟨d, parsed⟩
    obtain ⟨d', read⟩ := payload
    exact ⟨kind, _, d', by rw [Passage.action, given]; rfl, read⟩

/-- A conflict arrives as one. -/
theorem StoreCall.Arrives.conflict {c : StoreCall} {id : String} {reason : ConflictReason}
    {reply : c.call.Reply} (h : c.Arrives (.error (.conflict id reason)) reply) :
    ∃ f, reply = .error f ∧ f.failureKind = .conflict := by
  cases h with
  | nothing missing => cases missing
  | failure _ kind => exact ⟨_, rfl, kind⟩

/-! ## Calls behind the layer -/

namespace Contention

/-- The other writer can read and write the documents that a call expects a version of: their names
are not empty, and they do not nest too deeply. -/
def Legible (s : Store) (c : Call) : Prop :=
  ∀ t ∈ targets c, t.1 ≠ "" ∧ t.2 ≠ "" ∧
    ∀ d, s.document? t.1 t.2 = some d → d.source.depth ≤ 120

instance (s : Store) (c : Call) : Decidable (Legible s c) :=
  decidable_of_iff (∀ t ∈ targets c, t.1 ≠ "" ∧ t.2 ≠ "" ∧
      (s.document? t.1 t.2).all (fun d => decide (d.source.depth ≤ 120)) = true)
    (by simp only [Legible, Option.all_eq_true, decide_eq_true_eq])

variable {config : HttpConfig} (bare : Loopback.Bare config.base)

include bare

/-- A call meets a store in which the other writer wrote the documents again. -/
theorem above_eq {s : Http.Connection Server} (sent : s.client.store.Sent) (n : Nat) {c : Call}
    (legible : Legible s.client.store c) :
    ∃ last, layer.above (Loopback.transport config) c (⟨none, n⟩, s) =
      let r := Loopback.transport config c
        ⟨{ s.client with store := s.client.store.renewAll (targets c) }, last⟩
      (r.1, ⟨none, n + (targets c).countP fun t => (s.client.store.document? t.1 t.2).isSome⟩,
        r.2) := by
  have addressed : ∀ t ∈ targets c, t.1 ≠ "" ∧ t.2 ≠ "" ∧
      ∀ d, s.client.store.document? t.1 t.2 = some d → d.source.depth ≤ 126 := by
    intro t ht
    obtain ⟨named, known, shallow⟩ := legible t ht
    exact ⟨named, known, fun d live => (shallow d live).trans (by decide)⟩
  obtain ⟨last, run⟩ := run_interfereAll bare sent n addressed
  refine ⟨last, ?_⟩
  rw [Layer.above, layer, Program.run_bind, run]
  rfl

/-- A call fails by a conflict, and leaves a store as it is. -/
def Conflicts {α : Type} (s : Store)
    (r : Except ClientError α × Contention × Http.Connection Server) : Prop :=
  (∃ f, r.1 = .error f ∧ f.failureKind = .conflict) ∧ s.Alike r.2.2.client.store

section Guarded

variable {s : Http.Connection Server} (sent : s.client.store.Sent) (n : Nat) {name id : String}
  {v : Version} (issued : s.client.store.Issued name v)

include sent issued

/-- A call that expects a version of one document fails if the store refuses it for that. -/
theorem conflicts_of_refuses {c : StoreCall} (only : targets c.call = [(name, id)])
    (legible : Legible s.client.store c.call) (room : s.client.store.writes name < UInt64.size)
    (transparent : name ≠ "" → id ≠ "" → ∀ s', Loopback.Transparent config c s')
    (refuses : ∀ store : Store, store.Issued name v →
      (store.document? name id).map Document.version ≠ some v →
        ∃ reason, (c.apply .printed store).1 = .error (.conflict id reason) ∧
          store.Alike (c.apply .printed store).2) :
    Conflicts (s.client.store.renew (name, id))
      (layer.above (Loopback.transport config) c.call (⟨none, n⟩, s)) := by
  have once : s.client.store.renewAll (targets c.call) = s.client.store.renew (name, id) := by
    rw [only]
    rfl
  obtain ⟨log, renews⟩ := Store.renews_renew sent (name, id)
  obtain ⟨last, through⟩ := above_eq bare sent n legible
  have stale := renews.version_ne issued List.mem_cons_self room
  obtain ⟨named, known, -⟩ := legible (name, id) (by rw [only]; exact List.mem_cons_self)
  obtain ⟨reason, refused, alike⟩ :=
    refuses _ (issued.of_evolves renews.reaches.evolves) stale
  obtain ⟨arrives, after⟩ := transparent named known
    ⟨{ s.client with store := s.client.store.renew (name, id) }, last⟩
  rw [once] at through
  simp only [refused] at arrives
  rw [through]
  refine ⟨arrives.conflict, ?_⟩
  simp only [after]
  exact alike

theorem write_conflicts {payload : Bytes} {d : Value} (parsed : Store.parseSource payload = .ok d)
    (policy : RefreshPolicy) :
    let c := Call.write name ⟨some id, payload, some v, .index, policy⟩
    Legible s.client.store c → s.client.store.writes name < UInt64.size →
      Conflicts (s.client.store.renew (name, id))
        (layer.above (Loopback.transport config) c (⟨none, n⟩, s)) := by
  intro c legible room
  refine conflicts_of_refuses bare sent n issued
    (c := .write name ⟨some id, payload, some v, .index, policy⟩) rfl legible room
    (fun named known _ => Loopback.transparent_write bare named (by simpa using known))
    fun store _ stale => ?_
  obtain ⟨reason, refused, alike⟩ := (store.decided_write name id v parsed policy).refuses stale
  simp only [StoreCall.apply, Option.isSome_some, ↓reduceIte, WriteMode.kind, refused]
  exact ⟨reason, rfl, alike⟩

theorem delete_conflicts (policy : RefreshPolicy) :
    let c := Call.delete name id (some v) policy
    Legible s.client.store c → s.client.store.writes name < UInt64.size →
      Conflicts (s.client.store.renew (name, id))
        (layer.above (Loopback.transport config) c (⟨none, n⟩, s)) := by
  intro c legible room
  refine conflicts_of_refuses bare sent n issued (c := .delete name id (some v) policy) rfl legible
    room (fun named known _ => Loopback.transparent_delete bare named known (some v) policy)
    fun store there stale => ?_
  obtain ⟨reason, refused, alike⟩ :=
    (store.decided_delete name id v there.hasIndex policy).refuses stale
  simp only [StoreCall.apply, refused]
  exact ⟨reason, rfl, alike⟩

theorem bulk_guarded {index : String} (named : index ≠ "") {before after : List Action}
    {a : Action} (policy : RefreshPolicy)
    (complete : ∀ a' ∈ before ++ a :: after, a'.sent.Complete)
    (legible : Legible s.client.store (.bulk index (before ++ a :: after) policy))
    (guarded : a.Guarded (some index) name id v)
    (few : (before ++ a :: after).length ≤ s.client.store.config.maxActions)
    (room : s.client.store.writes name + 2 * (before ++ a :: after).length ≤ UInt64.size) :
    let c := Call.bulk index (before ++ a :: after) policy
    let r := layer.above (Loopback.transport config) c (⟨none, n⟩, s)
    ∃ items item others,
      r.1 = .ok (items ++ item :: others) ∧
      items.length = before.length ∧
      (item.outcome.isSuccess = true ↔ a.kind = .delete ∧
        (s.client.store.document? name id).map Document.version = some v ∧
        (∀ a' ∈ before ++ a :: after, ¬ a'.GuardedPut index name id) ∧
        ∀ r ∈ items.filterMap Receipt.ofItem?, r.concerns name id = false) ∧
      (item.outcome.isSuccess = false → item.outcome.status = 409 ∧
        (∃ reason, item = ⟨a.kind, Store.failure (some name) (some id) (.conflict id reason)⟩) ∧
        ((StoreCall.bulk index (before ++ after) policy).apply .printed
          (s.client.store.renewAll (targets c))).2.Alike r.2.2.client.store) := by
  intro c r
  obtain ⟨log, renews⟩ := Store.exists_renews sent (targets c)
  obtain ⟨last, through⟩ := above_eq bare sent n legible
  have least : (targets c).length ≤ (before ++ a :: after).length :=
    List.length_filterMap_le _ _
  rw [List.length_append, List.length_cons] at few room least
  obtain ⟨items, item, others, answered, length, met, failed⟩ :=
    renews.bulk_guarded issued guarded.printed (before.map Passage.printed.action)
      (after.map Passage.printed.action) policy (by simp only [List.length_map]; omega)
      (by simp only [List.length_map]; omega)
  obtain ⟨arrives, settled⟩ := Loopback.transparent_bulk_of_complete bare
    (s := ⟨{ s.client with store := s.client.store.renewAll (targets c) }, last⟩) named complete
    policy
  simp only [StoreCall.apply, List.map_append, List.map_cons, answered] at arrives settled
  have left : r.2.2.client.store = ((s.client.store.renewAll (targets c)).bulk (some index)
      (before.map Passage.printed.action ++
        Passage.printed.action a :: after.map Passage.printed.action) policy).2 := by
    simp only [r, c, through, settled]
  refine ⟨items, item, others, ?_, by rw [length, List.length_map], ?_, fun failure => ?_⟩
  · simp only [r, c, through]
    exact arrives.eq_answer
  · rw [mem_targets_bulk_iff, not_exists] at met
    simp only [not_and] at met
    rw [met]
    refine ⟨fun h => ⟨?_, h⟩, fun h => h.2⟩
    -- A guarded put draws the other writer to its own document.
    obtain kind | ⟨kind, -⟩ := guarded.kind
    · exact kind
    · have index := guarded.index
      rw [Option.or_some, Option.some.injEq] at index
      exact absurd ⟨kind, index, guarded.id, by rw [guarded.version]; rfl⟩ (h.2.1 a (by simp))
  · obtain ⟨status, reason, alike⟩ := failed failure
    refine ⟨status, reason, ?_⟩
    rw [left, StoreCall.apply, List.map_append]
    exact alike

end Guarded

/-- Which guards are met behind the layer of another writer who always acts, for versions that were
made before the call. A call without guards is what it is without the layer. Before any other call
he writes again each document that he is drawn to and that is there. A guarded put or delete on its
own fails by a conflict. In a bulk request a guarded put fails by a conflict too; but a guarded
delete is accepted exactly if the document has the version, no guarded put of the request is about
it, and no action before it that was accepted. What is refused does nothing to the store that the
other writer left. -/
theorem guard_met_iff (limits : StoreConfig) {ids handles : NameSupply} (requests : List Request)
    (n : Nat) (lastError : Option String) :
    let server := (Server.empty limits ids handles).after requests
    let log := ((Store.empty limits ids).executeAll (requests.filterMap Request.operation?)).1
    let direct (c : Call) := Loopback.transport config c ⟨server, lastError⟩
    let contended (c : Call) :=
      layer.above (Loopback.transport config) c (⟨none, n⟩, ⟨server, lastError⟩)
    (∀ c : Call, c.Unguarded → contended c = ((direct c).1, ⟨none, n⟩, (direct c).2)) ∧
      (∀ c : Call, Legible server.store c → (contended c).2.1 =
        ⟨none, n + (targets c).countP fun t => (server.store.document? t.1 t.2).isSome⟩) ∧
      ∀ token ∈ log,
        (∀ id payload d policy, Store.parseSource payload = .ok d →
          let c := Call.write token.index ⟨some id, payload, some token.version, .index, policy⟩
          Legible server.store c → server.store.writes token.index < Nat.pow 2 64 →
            Conflicts (server.store.renew (token.index, id)) (contended c)) ∧
        (∀ id policy,
          let c := Call.delete token.index id (some token.version) policy
          Legible server.store c → server.store.writes token.index < Nat.pow 2 64 →
            Conflicts (server.store.renew (token.index, id)) (contended c)) ∧
        ∀ index before a after policy id,
          let c := Call.bulk index (before ++ a :: after) policy
          index ≠ "" → (∀ a' ∈ before ++ a :: after, a'.sent.Complete) → Legible server.store c →
          a.Guarded (some index) token.index id token.version →
          (before ++ a :: after).length ≤ limits.maxActions →
          server.store.writes token.index + 2 * (before ++ a :: after).length ≤ Nat.pow 2 64 →
            ∃ items item others,
              (contended c).1 = .ok (items ++ item :: others) ∧
              items.length = before.length ∧
              (item.outcome.isSuccess = true ↔ a.kind = .delete ∧
                (server.store.document? token.index id).map Document.version =
                  some token.version ∧
                (∀ a' ∈ before ++ a :: after, ¬ a'.GuardedPut index token.index id) ∧
                ∀ r ∈ items.filterMap Receipt.ofItem?, r.concerns token.index id = false) ∧
              (item.outcome.isSuccess = false → item.outcome.status = 409 ∧
                (∃ reason, item = ⟨a.kind, Store.failure (some token.index) (some id)
                  (.conflict id reason)⟩) ∧
                ((StoreCall.bulk index (before ++ after) policy).apply .printed
                  (server.store.renewAll (targets c))).2.Alike
                    (contended c).2.2.client.store) := by
  intro server log direct contended
  have run : (Store.empty limits ids).Reaches log server.store :=
    (Server.empty limits ids handles).reaches_after requests
  have sent : server.store.Sent := run.sent (Store.sent_empty limits)
  refine ⟨fun c unguarded => above_of_no_targets (targets_of_unguarded unguarded) _ _ _,
    fun c legible => ?_, fun token made => ?_⟩
  · obtain ⟨last, through⟩ := above_eq bare (s := ⟨server, lastError⟩) sent n legible
    simp only [contended, through]
  have issued : server.store.Issued token.index token.version := run.evolves.issued made
  refine ⟨fun id payload d policy parsed => ?_, fun id policy => ?_,
    fun index before a after policy id => ?_⟩
  · exact write_conflicts bare (s := ⟨server, lastError⟩) sent n issued parsed policy
  · exact delete_conflicts bare (s := ⟨server, lastError⟩) sent n issued policy
  · intro c named complete legible guarded few room
    exact bulk_guarded bare (s := ⟨server, lastError⟩) sent n issued named policy complete legible
      guarded (few.trans_eq (congrArg StoreConfig.maxActions run.config).symm) room

omit bare

/-- Two documents are written. -/
def twoWrites : List Request :=
  [⟨"PUT", "/b/_doc/a", word "\x7b\x7d"⟩, ⟨"PUT", "/b/_doc/c", word "\x7b\x7d"⟩]

/-- The one is written again and the other one deleted, if they are still as they were written. -/
def twoGuarded : List Action :=
  [⟨.index, none, some "a", some ⟨1, 0⟩, some (word "\x7b\x7d")⟩,
    ⟨.delete, none, some "c", some ⟨1, 1⟩, none⟩]

/-- On its own each of the two fails. In one request the delete is accepted. -/
theorem guard_met_iff_twoWrites :
    let server := (Server.empty {}).after twoWrites
    let contended (c : Call) :=
      layer.above (Loopback.transport Repository.nearby) c (always, ⟨server, none⟩)
    let write := Call.write "b" ⟨some "a", word "\x7b\x7d", some ⟨1, 0⟩, .index, .none⟩
    let delete := Call.delete "b" "c" (some ⟨1, 1⟩) .none
    let bulk := Call.bulk "b" twoGuarded .none
    (Loopback.Bare Repository.nearby.base ∧ Legible server.store write ∧
        Legible server.store delete ∧ Legible server.store bulk ∧
        (∀ a ∈ twoGuarded, a.sent.Complete) ∧
        ((Store.empty {}).executeAll (twoWrites.filterMap Request.operation?)).1 =
          [⟨"b", "a", ⟨1, 0⟩, true⟩, ⟨"b", "c", ⟨1, 1⟩, true⟩]) ∧
      (∃ f, (contended write).1 = .error f ∧ f.failureKind = .conflict) ∧
      (∃ f, (contended delete).1 = .error f ∧ f.failureKind = .conflict) ∧
      ∃ first second others, (contended bulk).1 = .ok (first :: second :: others) ∧
        first.outcome.status = 409 ∧ second.outcome.isSuccess = true := by
  intro server contended write delete bulk
  have bare : Loopback.Bare Repository.nearby.base := ⟨"a".toList, by decide +kernel, by decide⟩
  have legible : Legible server.store write ∧ Legible server.store delete ∧
      Legible server.store bulk := by decide +kernel
  have complete : ∀ a ∈ twoGuarded, a.sent.Complete := by
    simp only [twoGuarded, List.forall_mem_cons]
    refine ⟨Action.complete_sent (fun _ => rfl) fun _ => ⟨_, .object [], rfl, rfl⟩,
      Action.complete_sent (fun _ => rfl) fun source => ?_, List.forall_mem_nil _⟩
    cases source
  have made : ((Store.empty {}).executeAll (twoWrites.filterMap Request.operation?)).1 =
      [⟨"b", "a", ⟨1, 0⟩, true⟩, ⟨"b", "c", ⟨1, 1⟩, true⟩] := by decide +kernel
  have counted : server.store.writes "b" = 2 := by decide +kernel
  have version : (server.store.document? "b" "c").map Document.version = some ⟨1, 1⟩ := by
    decide +kernel
  have apart : ("b", "c") ∉ targets bulk := by decide
  obtain ⟨-, -, guards⟩ := guard_met_iff bare {} twoWrites 0 none
  rw [made] at guards
  obtain ⟨writes, -, bulks⟩ := guards ⟨"b", "a", ⟨1, 0⟩, true⟩ List.mem_cons_self
  obtain ⟨-, deletes, bulks'⟩ := guards ⟨"b", "c", ⟨1, 1⟩, true⟩ (by simp)
  have room : server.store.writes "b" < Nat.pow 2 64 ∧
      server.store.writes "b" + 2 * 2 ≤ Nat.pow 2 64 := by
    rw [counted]
    decide
  obtain ⟨items, first, others, answered, empty, met, failed⟩ :=
    bulks "b" [] _ [⟨.delete, none, some "c", some ⟨1, 1⟩, none⟩] .none "a" (by decide) complete
      legible.2.2 ⟨rfl, rfl, rfl, .inr ⟨rfl, _, .object [], rfl, rfl⟩⟩ (by decide) room.2
  obtain ⟨items', second, others', answered', one, met', -⟩ :=
    bulks' "b" [⟨.index, none, some "a", some ⟨1, 0⟩, some (word "\x7b\x7d")⟩] _ [] .none "c"
      (by decide) complete legible.2.2 ⟨rfl, rfl, rfl, .inl rfl⟩ (by decide) room.2
  -- The put is refused, so no operation is about the other document before it is deleted.
  obtain rfl := List.length_eq_zero_iff.1 empty
  have refused : first.outcome.isSuccess = false := by
    rw [← Bool.not_eq_true, met]
    rintro ⟨delete, -⟩
    cases delete
  obtain ⟨status, ⟨reason, rfl⟩, -⟩ := failed refused
  have same := Except.ok.inj (answered.symm.trans answered')
  obtain ⟨item, rfl⟩ := List.length_eq_one_iff.1 one
  obtain ⟨rfl, -⟩ := List.cons.inj same
  refine ⟨⟨bare, legible.1, legible.2.1, legible.2.2, complete, made⟩,
    (writes "a" _ (.object []) .none rfl legible.1 room.1).1,
    (deletes "c" .none legible.2.1 room.1).1, _, second, others', answered', status, ?_⟩
  refine met'.2 ⟨rfl, version, fun a' ha' put => apart ?_, ?_⟩
  · exact mem_targets_bulk_iff.2 ⟨a', ha', put⟩
  · simp [Store.ofItem?_failure]

/-- A guarded delete in a bulk request does not conflict: the other writer does nothing, and the
document is deleted. -/
theorem delete_uncontended :
    let server := (Server.empty {}).after twoWrites
    let r := layer.above (Loopback.transport Repository.nearby)
      (.bulk "b" [⟨.delete, none, some "c", some ⟨1, 1⟩, none⟩] .none) (always, ⟨server, none⟩)
    (server.store.document? "b" "c").map Document.version = some ⟨1, 1⟩ ∧
      r.1.toOption.map (List.map fun i => i.outcome.status) = some [200] ∧
      r.2.1 = always ∧ (r.2.2.client.store.document? "b" "c").isNone = true := by
  decide +kernel

end Contention

end VersionedStore
