import VersionedStore.Client.Loopback
import VersionedStore.Proofs.Data.Decimal
import VersionedStore.Proofs.Server.Target

/-!
# Calls that reach the server

A call over loopback is one request, and the server finds in its target what the client put
there: the segments of the path, but for empty ones, and the parameters.

## Main definitions

* `Loopback.Bare` — an address of a scheme and an authority alone
* `Http.writeParams` — the parameters of a write

## Main results

* `Loopback.transport_of_draft` — a call is answered by the reply to its request
* `Http.draft_bulk`, `Http.draft_get`, `Http.draft_put`, `Http.draft_create`, `Http.draft_delete`,
  `Http.draft_search`, `Http.draft_plainSearch`, `Http.draft_advance`, `Http.draft_release`,
  `Http.draft_count`, `Http.draft_refresh` — the requests of calls
* `Http.version_writeParams`, `Http.refreshPolicy_writeParams`, `Http.writeMode_writeParams` —
  what the server reads off the parameters of a write
-/

namespace VersionedStore

/-! ## Addresses -/

namespace Loopback

/-- An address of a scheme and an authority alone, without a path. -/
def Bare (base : String) : Prop :=
  ∃ authority, afterScheme? base.toList = some authority ∧ '/' ∉ authority

private theorem afterScheme?_append {cs rest : List Char} (h : afterScheme? cs = some rest)
    (more : List Char) : afterScheme? (cs ++ more) = some (rest ++ more) := by
  fun_induction afterScheme? cs with
  | case1 rest' =>
    rw [← Option.some.inj h]
    rfl
  -- The scheme was not at the front before, and what is put behind does not bring it there.
  | case2 c cs other ih =>
    rw [List.cons_append, afterScheme?.eq_2]
    · exact ih h
    · intro rest' hc happ
      match cs with
      | [] => simp [afterScheme?] at h
      | [d] =>
        obtain ⟨rfl, -⟩ := List.cons.inj happ
        simp [afterScheme?] at h
      | d :: d' :: cs =>
        simp only [List.cons_append, List.cons.injEq] at happ
        obtain ⟨rfl, rfl, -⟩ := happ
        exact other cs hc rfl
  | case3 => simp at h

/-- Behind a bare address nothing but the path is left. -/
theorem path_append {base : String} (h : Bare base) (cs : List Char) :
    path (base ++ String.ofList ('/' :: cs)) = String.ofList ('/' :: cs) := by
  obtain ⟨authority, hbase, clean⟩ := h
  have dropped : (authority ++ '/' :: cs).dropWhile (· ≠ '/') = '/' :: cs := by
    rw [List.dropWhile_append_of_pos, List.dropWhile_cons_of_neg (by simp)]
    intro c hc
    simp only [ne_eq, decide_eq_true_eq]
    rintro rfl
    exact clean hc
  rw [path, String.toList_append, String.toList_ofList, pathChars, afterScheme?_append hbase]
  simp only [dropped]

/-- A call is answered by the reply to its request. -/
theorem transport_of_draft {config : HttpConfig} {c : Call} {method : String} {cs : List Char}
    {body : Option Bytes} (bare : Bare config.base)
    (h : Http.draft c = .ok ⟨method, String.ofList cs, body⟩) (slash : cs.head? = some '/')
    (s : Http.Connection Server) :
    transport config c s =
      (Http.answer c (s.client.handle ⟨method, String.ofList cs, body.getD []⟩).1,
        ⟨(s.client.handle ⟨method, String.ofList cs, body.getD []⟩).2, none⟩) := by
  obtain ⟨rest, rfl⟩ := List.head?_eq_some_iff.1 slash
  rw [transport, Http.transport, h]
  simp only [serverClient, client, Http.request, path_append bare]

end Loopback

/-! ## Targets -/

namespace Http

private theorem encode_doc : Percent.encode "_doc" = "_doc" := Percent.encode_of_all (by decide)

private theorem encode_bulk : Percent.encode "_bulk" = "_bulk" := Percent.encode_of_all (by decide)

private theorem documentPath_eq (index id : String) :
    documentPath index id = String.ofList (Target.pathOf [index, "_doc", id]) := by
  rw [← String.toList_inj, String.toList_ofList]
  change (indexPath index ++ "/_doc/" ++ Percent.encode id).toList = _
  simp [indexPath, Target.pathOf, encode_doc]

/-- A query is written with its parameters as they are, if they are their own encodings. -/
private theorem intercalate_eq_queryOf {params : List (String × String)}
    (h : ∀ p ∈ params, Percent.encode p.1 = p.1 ∧ Percent.encode p.2 = p.2) :
    ("&".intercalate (params.map fun p => p.1 ++ "=" ++ p.2)).toList = Target.queryOf params := by
  -- The library joins texts from the left, the model from the right.
  have joined_eq : ∀ ps : List (List Char), ['&'].intercalate ps = joined '&' ps := by
    intro ps
    induction ps with
    | nil => rfl
    | cons p ps ih =>
      cases ps with
      | nil => simp [joined]
      | cons q ps =>
        rw [joined.eq_3 _ _ _ (by simp), ← ih]
        simp [List.intercalate]
  rw [String.toList_intercalate, Target.queryOf, ← joined_eq, List.map_map]
  congr 1
  refine List.map_congr_left fun p hp => ?_
  obtain ⟨name, value⟩ := h p hp
  simp [Target.pairOf, name, value]

/-- The parameters of a write. -/
def writeParams (mode : Option WriteMode) (required : Option Version) (refresh : RefreshPolicy) :
    List (String × String) :=
  (mode.map fun m => ("op_type", m.word)).toList ++
    (match required with
      | none => []
      | some v => [("if_seq_no", Decimal.text v.sequence.toNat),
          ("if_primary_term", Decimal.text v.epoch.toNat)]) ++
    [("refresh", refresh.param)]

private theorem encode_word (m : WriteMode) : Percent.encode m.word = m.word := by
  cases m <;> exact Percent.encode_of_all (by decide)

private theorem encode_param (p : RefreshPolicy) : Percent.encode p.param = p.param := by
  cases p <;> exact Percent.encode_of_all (by decide)

private theorem plain_text (n : Nat) : ∀ c ∈ (Decimal.text n).toList,
    c.toNat < 0x80 ∧ Percent.isPlain (octet c) = true := by
  rw [Decimal.toList_text]
  have plain : ∀ d : Digit, d.char.toNat < 0x80 ∧ Percent.isPlain (octet d.char) = true := by
    decide
  intro c hc
  obtain ⟨d, -, rfl⟩ := List.mem_map.1 hc
  exact plain d

private theorem encode_text (n : Nat) : Percent.encode (Decimal.text n) = Decimal.text n :=
  Percent.encode_eq_self (plain_text n)

theorem writeQuery_eq (mode : Option WriteMode) (required : Option Version)
    (refresh : RefreshPolicy) :
    (writeQuery mode required refresh).toList =
      '?' :: Target.queryOf (writeParams mode required refresh) := by
  have pairs : writeQuery mode required refresh =
      "?" ++ "&".intercalate ((writeParams mode required refresh).map
        fun p => p.1 ++ "=" ++ p.2) := by
    have same : ∀ s : String, toString s = s := fun _ => rfl
    have names : "op_type" ++ "=" = "op_type=" ∧ "if_seq_no" ++ "=" = "if_seq_no=" ∧
        "if_primary_term" ++ "=" = "if_primary_term=" ∧ "refresh" ++ "=" = "refresh=" := by decide
    obtain ⟨opType, sequence, epoch, visible⟩ := names
    cases mode <;> cases required <;>
      simp [writeQuery, writeParams, versionParams, refreshParam, same, opType, sequence, epoch,
        visible]
  -- Names, words and numerals have plain characters only, so all of them are their own encodings.
  have plain : ∀ p ∈ writeParams mode required refresh,
      Percent.encode p.1 = p.1 ∧ Percent.encode p.2 = p.2 := by
    have names : Percent.encode "op_type" = "op_type" ∧ Percent.encode "if_seq_no" = "if_seq_no" ∧
        Percent.encode "if_primary_term" = "if_primary_term" ∧
        Percent.encode "refresh" = "refresh" := by
      refine ⟨?_, ?_, ?_, ?_⟩ <;> exact Percent.encode_of_all (by decide)
    cases mode <;> cases required <;>
      simp [writeParams, names, encode_word, encode_param, encode_text]
  rw [pairs, String.toList_append, intercalate_eq_queryOf plain]
  rfl

private theorem writePath_eq (index id : String) (mode : Option WriteMode)
    (required : Option Version) (refresh : RefreshPolicy) :
    documentPath index id ++ writeQuery mode required refresh =
      String.ofList (Target.pathOf [index, "_doc", id] ++
        '?' :: Target.queryOf (writeParams mode required refresh)) := by
  rw [← String.toList_inj, String.toList_append, writeQuery_eq, documentPath_eq,
    String.toList_ofList, String.toList_ofList]

/-- A document without an id is sent to its index. -/
private theorem createPath_eq (index : String) (required : Option Version)
    (refresh : RefreshPolicy) :
    s!"{indexPath index}/_doc" ++ writeQuery none required refresh =
      String.ofList (Target.pathOf [index, "_doc"] ++
        '?' :: Target.queryOf (writeParams none required refresh)) := by
  change indexPath index ++ "/_doc" ++ _ = _
  rw [← String.toList_inj, String.toList_append, writeQuery_eq, String.toList_ofList]
  simp [indexPath, Target.pathOf, encode_doc]

private theorem bulkPath_eq (index : String) (refresh : RefreshPolicy) :
    s!"{indexPath index}/_bulk?{refreshParam refresh}" =
      String.ofList (Target.pathOf [index, "_bulk"] ++
        '?' :: Target.queryOf [("refresh", refresh.param)]) := by
  have encoded : Percent.encode "refresh" = "refresh" := Percent.encode_of_all (by decide)
  change indexPath index ++ "/_bulk?" ++ ("refresh=" ++ refresh.param) = _
  rw [← String.toList_inj, String.toList_ofList]
  simp [indexPath, Target.pathOf, encode_bulk, Target.queryOf, Target.pairOf, joined, encoded,
    encode_param]

private theorem encode_search : Percent.encode "_search" = "_search" :=
  Percent.encode_of_all (by decide)

private theorem encode_lease (d : Duration) : Percent.encode d.lease = d.lease := by
  refine Percent.encode_eq_self ?_
  change ∀ c ∈ (Decimal.text d.leaseSeconds ++ "s").toList, _
  rw [String.toList_append, List.forall_mem_append]
  exact ⟨plain_text _, List.forall_mem_singleton.2 (by decide)⟩

private theorem searchPath_eq (index : String) (lease : Duration) :
    s!"{indexPath index}/_search" ++ leaseQuery (some lease) =
      String.ofList (Target.pathOf [index, "_search"] ++
        '?' :: Target.queryOf [("scroll", lease.lease)]) := by
  have encoded : Percent.encode "scroll" = "scroll" := Percent.encode_of_all (by decide)
  change indexPath index ++ "/_search" ++ ("?scroll=" ++ lease.lease) = _
  rw [← String.toList_inj, String.toList_ofList]
  simp [indexPath, Target.pathOf, encode_search, Target.queryOf, Target.pairOf, joined, encoded,
    encode_lease]

/-- A search that does not go on has no parameters. -/
private theorem plainSearchPath_eq (index : String) :
    s!"{indexPath index}/_search" ++ leaseQuery none =
      String.ofList (Target.pathOf [index, "_search"]) := by
  change indexPath index ++ "/_search" ++ "" = _
  rw [← String.toList_inj, String.toList_ofList]
  simp [indexPath, Target.pathOf, encode_search]

private theorem scrollPath_eq :
    scrollPath = String.ofList (Target.pathOf ["_search", "scroll"]) := by
  have encoded : Percent.encode "scroll" = "scroll" := Percent.encode_of_all (by decide)
  rw [← String.toList_inj, String.toList_ofList]
  simp [scrollPath, Target.pathOf, encode_search, encoded]

private theorem countPath_eq (index : String) :
    s!"{indexPath index}/_count" = String.ofList (Target.pathOf [index, "_count"]) := by
  have encoded : Percent.encode "_count" = "_count" := Percent.encode_of_all (by decide)
  change indexPath index ++ "/_count" = _
  rw [← String.toList_inj, String.toList_ofList]
  simp [indexPath, Target.pathOf, encoded]

private theorem refreshPath_eq (index : String) :
    s!"{indexPath index}/_refresh" = String.ofList (Target.pathOf [index, "_refresh"]) := by
  have encoded : Percent.encode "_refresh" = "_refresh" := Percent.encode_of_all (by decide)
  change indexPath index ++ "/_refresh" = _
  rw [← String.toList_inj, String.toList_ofList]
  simp [indexPath, Target.pathOf, encoded]

/-! ## Drafts -/

theorem draft_bulk (index : String) {actions : List Action} {body : Bytes}
    (encoded : Bulk.encode actions = .ok body) (refresh : RefreshPolicy) :
    draft (.bulk index actions refresh) =
      .ok ⟨"POST", String.ofList (Target.pathOf [index, "_bulk"] ++
        '?' :: Target.queryOf [("refresh", refresh.param)]), some body⟩ := by
  rw [draft, encoded]
  simp only [bulkPath_eq]

theorem draft_get (index id : String) : draft (.get index id) =
    .ok ⟨"GET", String.ofList (Target.pathOf [index, "_doc", id]), none⟩ := by
  rw [draft, documentPath_eq]

theorem draft_put (index id : String) (payload : Bytes) (required : Option Version)
    (mode : WriteMode) (refresh : RefreshPolicy) :
    draft (.write index ⟨some id, payload, required, mode, refresh⟩) =
      .ok ⟨"PUT", String.ofList (Target.pathOf [index, "_doc", id] ++
        '?' :: Target.queryOf (writeParams (some mode) required refresh)), some payload⟩ := by
  simp only [draft, draftWrite, writePath_eq]

theorem draft_create (index : String) (payload : Bytes) (required : Option Version)
    (mode : WriteMode) (refresh : RefreshPolicy) :
    draft (.write index ⟨none, payload, required, mode, refresh⟩) =
      .ok ⟨"POST", String.ofList (Target.pathOf [index, "_doc"] ++
        '?' :: Target.queryOf (writeParams none required refresh)), some payload⟩ := by
  simp only [draft, draftWrite, createPath_eq]

theorem draft_delete (index id : String) (required : Option Version) (refresh : RefreshPolicy) :
    draft (.delete index id required refresh) =
      .ok ⟨"DELETE", String.ofList (Target.pathOf [index, "_doc", id] ++
        '?' :: Target.queryOf (writeParams none required refresh)), none⟩ := by
  simp only [draft, writePath_eq]

theorem draft_search (index : String) (b : Wire.SearchBody) (lease : Duration) :
    draft (.search index b (some lease)) =
      .ok ⟨"POST", String.ofList (Target.pathOf [index, "_search"] ++
        '?' :: Target.queryOf [("scroll", lease.lease)]), some b.toText.write⟩ := by
  rw [draft, searchPath_eq]

theorem draft_plainSearch (index : String) (b : Wire.SearchBody) :
    draft (.search index b none) =
      .ok ⟨"POST", String.ofList (Target.pathOf [index, "_search"]), some b.toText.write⟩ := by
  rw [draft, plainSearchPath_eq]

theorem draft_advance (handle : String) (lease : Duration) : draft (.advance handle lease) =
    .ok ⟨"POST", String.ofList (Target.pathOf ["_search", "scroll"]),
      some (Wire.ScrollBody.toText ⟨lease.lease, handle⟩).write⟩ := by
  rw [draft, scrollPath_eq]

theorem draft_release (handle : String) : draft (.release handle) =
    .ok ⟨"DELETE", String.ofList (Target.pathOf ["_search", "scroll"]),
      some (Wire.ClearBody.toText ⟨[handle]⟩).write⟩ := by
  rw [draft, scrollPath_eq]

theorem draft_count (index : String) (query : Option Json.Value) : draft (.count index query) =
    .ok ⟨"POST", String.ofList (Target.pathOf [index, "_count"]),
      some (Wire.CountBody.toText ⟨query⟩).write⟩ := by
  rw [draft, countPath_eq]

theorem draft_refresh (index : String) : draft (.refresh index) =
    .ok ⟨"POST", String.ofList (Target.pathOf [index, "_refresh"]), none⟩ := by
  rw [draft, refreshPath_eq]

/-! ## Parameters -/

section Params

variable (mode : Option WriteMode) (required : Option Version) (refresh : RefreshPolicy)

theorem writeParams_ne_nil : writeParams mode required refresh ≠ [] := by
  simp [writeParams]

theorem refreshPolicy_of_find? {params : Params}
    (h : params.find? "refresh" = some refresh.param) : params.refreshPolicy = .ok refresh := by
  rw [Params.refreshPolicy, h]
  cases refresh <;> rfl

theorem refreshPolicy_writeParams :
    Params.refreshPolicy (.ofList (writeParams mode required refresh)) = .ok refresh := by
  refine refreshPolicy_of_find? refresh ?_
  cases mode <;> cases required <;> simp [writeParams, Table.ofList]

theorem version_writeParams :
    Params.version (.ofList (writeParams mode required refresh)) = .ok required := by
  have parts : Params.number (.ofList (writeParams mode required refresh)) "if_seq_no" =
      .ok (Version.sequence? required) ∧
      Params.number (.ofList (writeParams mode required refresh)) "if_primary_term" =
      .ok (Version.epoch? required) := by
    cases mode <;> cases required <;>
      simp [Params.number, writeParams, Table.ofList, Decimal.parseWord?_text, Version.sequence?,
        Version.epoch?]
  simp only [Params.version, parts, bind, Except.bind, Version.ofParts?_parts]

theorem writeMode_writeParams (m : WriteMode) :
    Params.writeMode (.ofList (writeParams (some m) required refresh)) = .ok m := by
  have word : Table.find? (.ofList (writeParams (some m) required refresh)) "op_type" =
      some m.word := by
    cases required <;> simp [writeParams, Table.ofList]
  rw [Params.writeMode, word]
  cases m <;> rfl

end Params

end Http

end VersionedStore
