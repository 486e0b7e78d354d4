import VersionedStore.Proofs.Bulk.RoundTrip
import VersionedStore.Proofs.Bulk.Steps

/-!
# The framing of bulk bodies

The encoder looks into a document only if it has a line feed, and the decoder passes over blank
lines. So a document that cannot be read gets the whole body refused, but one that is blank is
not seen at all: the action before it takes the next action line for its document. Blank
documents are the only ones that break the framing.

## Main definitions

* `Action.framed` — an action as the lines of a body carry it
* `Action.Visible` — an action whose document, if it has one, is not blank

## Main results

* `Bulk.decodeLines_framed` — what is decoded of visible actions are these actions
* `Bulk.decodeLines_blank` — an action whose document is blank takes the next action line for it
* `Bulk.eq_framed_iff` — a body that is accepted keeps its framing just if all documents are seen
-/

namespace VersionedStore

open Json

namespace Action

/-- An action as the lines of a body carry it: a document on one line, and none of a delete. -/
def framed (a : Action) : Action :=
  { a with source := if a.kind.hasSource then a.source.map Bulk.onOneLine else none }

/-- Whether the document that comes with an action is seen among the lines of a body. -/
def Visible (a : Action) : Prop :=
  a.kind.hasSource = true → ∀ s ∈ a.source, Bytes.isBlank s = false

end Action

namespace Bulk

variable {a : Action} {as : List Action} {lines rest : Bytes}

/-! ## The line of a document -/

/-- The line of a document that is encoded. -/
theorem sourceLine_eq_ok {source line : Bytes} (h : sourceLine source = .ok line) :
    line = onOneLine source ∧ octet '\n' ∉ line := by
  unfold sourceLine at h
  unfold onOneLine
  split at h
  · next feed =>
    rw [if_pos feed]
    cases hv : Value.parse? source with
    | none => simp [hv] at h
    | some v =>
      simp only [hv, Except.ok.injEq] at h
      rw [← h]
      exact ⟨rfl, v.lineFeed_notMem_write⟩
  · next feed =>
    rw [if_neg feed, ← Except.ok.inj h]
    exact ⟨rfl, feed⟩

/-- A blank document stays as it is, as there is no value in it. -/
theorem onOneLine_of_isBlank {source : Bytes} (h : Bytes.isBlank source = true) :
    onOneLine source = source := by
  unfold onOneLine
  split
  · rw [Value.parse?, parse?_of_isBlank h]
    rfl
  · rfl

/-- A document that is not blank has a line that is not blank. -/
theorem isBlank_onOneLine {source : Bytes} (h : Bytes.isBlank source = false) :
    Bytes.isBlank (onOneLine source) = false := by
  unfold onOneLine
  split
  · cases hv : Value.parse? source with
    | none => simpa using h
    | some v =>
      by_contra blank
      have none := parse?_of_isBlank (eq_true_of_ne_false blank)
      rw [Option.map_some, Option.getD_some, Value.write, Text.parse?_write v.wellFormed_toText]
        at none
      simp at none
  · exact h

/-! ## Visible actions -/

/-- What is encoded of an action with a document. -/
theorem encodeAction_eq_ok (h : encodeAction a = .ok lines) (hk : a.kind.hasSource = true) :
    ∃ source, a.source = some source ∧ sourceLine source = .ok (onOneLine source) ∧
      lines = actionLine a ++ octet '\n' :: onOneLine source ++ [octet '\n'] := by
  rw [encodeAction, if_pos hk] at h
  cases hs : a.source with
  | none => simp [hs] at h
  | some source =>
    simp only [hs, map_eq_ok_iff] at h
    obtain ⟨line, hline, rfl⟩ := h
    obtain ⟨rfl, -⟩ := sourceLine_eq_ok hline
    exact ⟨source, rfl, hline, rfl⟩

/-- What is decoded of the lines of a visible action and of what follows begins with that action,
and the decoder goes on behind its lines. -/
theorem decodeLines_encodeAction (h : encodeAction a = .ok lines) (visible : a.Visible)
    (rest : Bytes) (number : Nat) : ∃ next, ∀ bs,
      decodeLines (linesFrom number (pieces (octet '\n') (lines ++ rest))) = .ok bs →
        ∃ others, bs = a.framed :: others ∧
          decodeLines (linesFrom next (pieces (octet '\n') rest)) = .ok others := by
  cases hk : a.kind.hasSource with
  | true =>
    obtain ⟨source, hs, hline, rfl⟩ := encodeAction_eq_ok h hk
    refine ⟨number + 1 + 1, fun bs hbs => ?_⟩
    rw [decodeLines_document hk (sourceLine_eq_ok hline).2
      (isBlank_onOneLine (visible hk source (by simp [hs])))] at hbs
    split at hbs
    · simp at hbs
    · obtain ⟨b, hfinish, hbs⟩ := bind_eq_ok_iff.1 hbs
      obtain ⟨others, hothers, hbs⟩ := bind_eq_ok_iff.1 hbs
      refine ⟨others, ?_, hothers⟩
      rw [← Except.ok.inj hbs, (finish_eq_ok_iff.1 hfinish).2, Action.framed, if_pos hk, hs]
      rfl
  | false =>
    rw [encodeAction, if_neg (by simp [hk]), Except.ok.injEq] at h
    refine ⟨number + 1, fun bs hbs => ?_⟩
    rw [← h, decodeLines_noDocument hk] at hbs
    obtain ⟨b, hfinish, hbs⟩ := bind_eq_ok_iff.1 hbs
    obtain ⟨others, hothers, hbs⟩ := bind_eq_ok_iff.1 hbs
    refine ⟨others, ?_, hothers⟩
    rw [← Except.ok.inj hbs, (finish_eq_ok_iff.1 hfinish).2, Action.framed, if_neg (by simp [hk])]
    rfl

/-- What is decoded of the body of visible actions are these actions in their order. -/
theorem decodeLines_framed {body : Bytes} {bs : List Action} (h : encode as = .ok body)
    (visible : ∀ a ∈ as, a.Visible) (number : Nat)
    (decoded : decodeLines (linesFrom number (pieces (octet '\n') body)) = .ok bs) :
    bs = as.map Action.framed := by
  induction as generalizing body bs number with
  | nil =>
    rw [← Except.ok.inj h] at decoded
    exact (Except.ok.inj decoded).symm
  | cons a as ih =>
    obtain ⟨lines, hlines, h⟩ := bind_eq_ok_iff.1 h
    obtain ⟨more, hmore, h⟩ := bind_eq_ok_iff.1 h
    rw [← Except.ok.inj h] at decoded
    obtain ⟨next, step⟩ :=
      decodeLines_encodeAction hlines (visible a List.mem_cons_self) more number
    obtain ⟨others, rfl, hothers⟩ := step bs decoded
    rw [ih hmore (fun b hb => visible b (List.mem_cons_of_mem _ hb)) next hothers, List.map_cons]

/-! ## Blank documents -/

/-- Every document that was decoded is JSON. -/
theorem json_of_decodeLines {ls : List Line} {bs : List Action} (h : decodeLines ls = .ok bs) :
    ∀ b ∈ bs, ∀ s ∈ b.source, (Text.parse? s).isSome := by
  intro b hb s hs
  rw [decodeLines_eq_plain] at h
  have comes := Verdicts.comes_of_decodeLines h b hb
  cases kind : b.kind.hasSource with
  | true =>
    obtain ⟨line, -, source, json⟩ := comes.source kind
    rw [source, Option.mem_some_iff] at hs
    exact hs ▸ json
  | false => simp [comes.noSource kind] at hs

/-- An action whose document is blank takes the next action line for its document. -/
theorem decodeLines_blank {blank : Bytes} (hk : a.kind.hasSource = true)
    (named : a.kind ≠ .create → a.id.isSome) (oneLine : octet '\n' ∉ blank)
    (unseen : Bytes.isBlank blank = true) (b : Action) (number : Nat) :
    decodeLines (linesFrom number (pieces (octet '\n')
      (actionLine a ++ octet '\n' :: blank ++ [octet '\n'] ++
        (actionLine b ++ octet '\n' :: rest)))) = do
        return { a with source := some (actionLine b) } ::
          (← decodeLines (linesFrom (number + 1 + 1 + 1) (pieces (octet '\n') rest))) := by
  have framed : actionLine a ++ octet '\n' :: blank ++ [octet '\n'] ++
      (actionLine b ++ octet '\n' :: rest) =
      actionLine a ++
        octet '\n' :: (blank ++ octet '\n' :: (actionLine b ++ octet '\n' :: rest)) := by
    simp only [List.append_assoc, List.cons_append, List.nil_append]
  rw [framed, linesFrom_append number (lineFeed_notMem_actionLine a) (isBlank_actionLine a),
    -- The blank line is passed over, so the second line that is seen is that of the next action.
    pieces_append oneLine, linesFrom, if_pos unseen,
    linesFrom_append (number + 1 + 1) (lineFeed_notMem_actionLine b) (isBlank_actionLine b),
    decodeLines, readAction_actionLine]
  have json : (Text.parse? (actionLine b)).isNone = false := by
    rw [actionLine, Text.parse?_write (wellFormed_actionText b)]
    rfl
  have named : finish number (target a) a.version (some (actionLine b)) =
      .ok { a with source := some (actionLine b) } := finish_eq_ok_iff.2 ⟨named, rfl⟩
  rw [target] at named
  simp only [bind, Except.bind, hk, ↓reduceIte, json, Bool.false_eq_true, named]

/-- A body that is encoded and decoded keeps its framing just if no document is blank: then the
actions arrive in their order, each with what its line tells and with its document on one line. -/
theorem eq_framed_iff {body : Bytes} {bs : List Action} (h : encode as = .ok body)
    (decoded : decode body = .ok bs) :
    bs = as.map Action.framed ↔ ∀ a ∈ as, a.Visible := by
  constructor
  · intro same a ha hk s hs
    by_contra blank
    have unseen := eq_true_of_ne_false blank
    -- A blank document would have been decoded as it is, but it is no JSON.
    have framed : a.framed.source = some s := by
      rw [Action.framed, if_pos hk, Option.mem_def.1 hs, Option.map_some,
        onOneLine_of_isBlank unseen]
    have json := json_of_decodeLines decoded _ (same ▸ List.mem_map_of_mem ha) s framed
    rw [parse?_of_isBlank unseen] at json
    simp at json
  · intro visible
    exact decodeLines_framed h visible 1 decoded

/-- A put whose document is written on two lines, and a delete behind it. -/
def twoLines : List Action := [.put "1" none (word "\x7b\n\x7d"), .delete "2" none]

theorem framed_twoLines :
    ∃ body, encode twoLines = .ok body ∧ decode body = .ok (twoLines.map Action.carried) ∧
      (twoLines.map Action.carried = twoLines.map Action.framed ↔
        ∀ a ∈ twoLines, a.Visible) := by
  have complete : ∀ a ∈ twoLines, a.Complete := by
    simp only [twoLines, List.forall_mem_cons, List.not_mem_nil, false_imp_iff, implies_true,
      and_true]
    refine ⟨⟨fun _ => ⟨_, rfl, ?_, fun _ => ?_⟩, ?_, ?_⟩, ?_, ?_, ?_⟩
    all_goals decide +kernel
  obtain ⟨body, encoded, decoded⟩ := decodeLines_encode complete
  exact ⟨body, encoded, decoded 1, eq_framed_iff encoded (decoded 1)⟩

/-- A put whose document is blank, and a delete behind it. -/
def blankPut : List Action := [.put "1" none (word "  "), .delete "2" none]

/-- What arrives is one action: the put, with the line of the delete for its document. -/
theorem decode_encode_blankPut :
    ∃ body, encode blankPut = .ok body ∧
      decode body = .ok [.put "1" none (actionLine (.delete "2" none))] ∧
      [.put "1" none (actionLine (.delete "2" none))] ≠ blankPut.map Action.framed := by
  have oneLine : octet '\n' ∉ word "  " := by decide
  have encoded : encode blankPut = .ok (actionLine (.put "1" none (word "  ")) ++
      octet '\n' :: word "  " ++ [octet '\n'] ++
        (actionLine (.delete "2" none) ++ octet '\n' :: [])) := by
    rw [blankPut, encode, encodeAction, if_pos (by rfl)]
    simp only [Action.put, sourceLine, if_neg oneLine]
    rfl
  refine ⟨_, encoded, ?_, by simp [blankPut]⟩
  rw [decode, decodeLines_blank (by rfl) (fun _ => rfl) oneLine (by decide)]
  rfl

end Bulk

end VersionedStore
