import VersionedStore.Bulk.Body
import VersionedStore.Proofs.Data.Pieces
import VersionedStore.Proofs.Json.Record

/-!
# Decoding undoes encoding of bulk bodies

An action line is a well-formed text, so it stands on one line, is not blank, and is read back
with all that it tells. A document is a line of its own: it is kept as it is if it has no line
feed, and is written anew otherwise. Both are JSON, so the decoder takes the line after an
action for its document and nothing else, and the two alternate in step over the whole body.

## Main definitions

* `Action.Complete` — an action that has all that its kind asks for
* `Bulk.onOneLine`, `Action.carried` — a document, and an action, as they arrive

## Main results

* `Bulk.parseTarget?_actionLine` — an action line tells what the action does
* `Bulk.decode_encode_of_complete` — complete actions arrive, in order and unchanged but for the
  line feeds of their documents
-/

namespace VersionedStore

open Json

/-! ## What arrives -/

namespace Bulk

/-- A document as it arrives: one that has line feeds arrives without white space. -/
def onOneLine (source : Bytes) : Bytes :=
  if octet '\n' ∈ source then ((Value.parse? source).map Value.write).getD source else source

end Bulk

namespace Action

/-- An action that has all that its kind asks for: a create or a put has a document, which is
JSON in form, and also in meaning if it has line feeds; a delete has none; a put or a delete
names its document. -/
structure Complete (a : Action) : Prop where
  source : a.kind.hasSource = true → ∃ s, a.source = some s ∧ (Text.parse? s).isSome ∧
    (octet '\n' ∈ s → (Value.parse? s).isSome)
  noSource : a.kind.hasSource = false → a.source = none
  named : a.kind ≠ .create → a.id.isSome

/-- An action as it arrives. -/
def carried (a : Action) : Action := { a with source := a.source.map Bulk.onOneLine }

end Action

namespace Bulk

variable {a : Action} {as : List Action} {rest : Bytes}

/-! ## Action lines -/

theorem wellFormed_actionText (a : Action) : (actionText a).WellFormed := by
  unfold actionText
  refine Text.wellFormed_ofMembers ?_
  rw [List.forall_mem_singleton]
  refine Text.wellFormed_ofMembers ?_
  simp only [List.forall_mem_append]
  exact ⟨⟨⟨Record.wellFormed_given _ _ Text.wellFormed_ofString,
    Record.wellFormed_given _ _ Text.wellFormed_ofString⟩,
    Record.wellFormed_given _ _ fun n => Text.wellFormed_ofNat n.toNat⟩,
    Record.wellFormed_given _ _ fun n => Text.wellFormed_ofNat n.toNat⟩

private theorem ofWord?_word (k : Action.Kind) : Action.Kind.ofWord? k.word = some k := by
  cases k <;> rfl

private theorem sublist_target (a : Action) :
    ((Record.given "_index" Text.ofString a.index ++ Record.given "_id" Text.ofString a.id ++
      Record.given "if_seq_no" (fun n : UInt64 => Text.ofNat n.toNat)
        (Version.sequence? a.version) ++
      Record.given "if_primary_term" (fun n : UInt64 => Text.ofNat n.toNat)
        (Version.epoch? a.version)).map Prod.fst).Sublist (targetFields.map Field.name) := by
  simp only [List.map_append]
  exact (((Record.sublist_given _ _ _).append (Record.sublist_given _ _ _)).append
    (Record.sublist_given _ _ _)).append (Record.sublist_given _ _ _)

/-- The line of an action tells what the action does, where, to which document, and which
version it expects. -/
theorem parseTarget?_actionLine (a : Action) :
    parseTarget? (actionLine a) = some
      ⟨a.kind, a.index, a.id, Version.sequence? a.version, Version.epoch? a.version⟩ := by
  rw [parseTarget?, actionLine, Text.parse?_write (wellFormed_actionText a), actionText]
  simp only [Option.bind_eq_bind, Option.bind_some, nestingLimit, Record.tagged?_ofMembers]
  simp only [readTarget, ofWord?_word, Option.bind_eq_bind, Option.bind_some,
    Record.ofText?_ofMembers (sublist_target a) (by decide)]
  rw [Record.optional_of_lookup a.index Text.ofString (by simp [List.lookup_append]) (by simp),
    Option.bind_some,
    Record.optional_of_lookup a.id Text.ofString (by simp [List.lookup_append]) (by simp),
    Option.bind_some,
    Record.optional_of_lookup (Version.sequence? a.version) (fun n => Text.ofNat n.toNat)
      (by simp [List.lookup_append]) (by simp),
    Option.bind_some,
    Record.optional_of_lookup (Version.epoch? a.version) (fun n => Text.ofNat n.toNat)
      (by simp [List.lookup_append]) (by simp)]
  rfl

theorem readAction_actionLine (number : Nat) (a : Action) :
    readAction ⟨number, actionLine a⟩ = .ok
      (⟨a.kind, a.index, a.id, Version.sequence? a.version, Version.epoch? a.version⟩,
        a.version) := by
  rw [readAction, parseTarget?_actionLine]
  simp only [Version.ofParts?_parts]

theorem lineFeed_notMem_actionLine (a : Action) : octet '\n' ∉ actionLine a :=
  (wellFormed_actionText a).lineFeed_notMem

/-! ## Lines that are not blank -/

/-- A blank line has no text: its octets are white space of JSON, up to a form feed. -/
theorem parse?_of_isBlank {line : Bytes} (h : Bytes.isBlank line = true) :
    Text.parse? line = none := by
  have skipped : skipSpace line = [] ∨ ∃ bs, skipSpace line = 0x0c :: bs := by
    induction line with
    | nil => exact .inl rfl
    | cons b line ih =>
      rw [Bytes.isBlank, List.all_cons, Bool.and_eq_true] at h
      rw [skipSpace]
      split
      · exact ih h.2
      · next hb =>
        -- Of the white space of lines only the form feed is no white space of JSON.
        refine .inr ⟨line, ?_⟩
        have space := h.1
        simp only [Bool.or_eq_true, beq_iff_eq, not_or] at hb
        simp only [Bytes.isSpace, Bool.or_eq_true, beq_iff_eq, hb, false_or, or_false] at space
        rw [space]
  rw [Text.parse?, show 3 * line.length + 3 = 3 * line.length + 2 + 1 from rfl, Text.read]
  obtain hs | ⟨bs, hs⟩ := skipped
  · rw [hs]
  · rw [hs]
    rfl

theorem isBlank_actionLine (a : Action) : Bytes.isBlank (actionLine a) = false := by
  by_contra h
  have blank := parse?_of_isBlank (eq_true_of_ne_false h)
  rw [actionLine, Text.parse?_write (wellFormed_actionText a)] at blank
  simp at blank

/-! ## Bodies -/

/-- The line of a document that is JSON: it is there, has no line feed, and is JSON in form. -/
private theorem sourceLine_onOneLine {source : Bytes} (form : (Text.parse? source).isSome)
    (meaning : octet '\n' ∈ source → (Value.parse? source).isSome) :
    sourceLine source = .ok (onOneLine source) ∧ octet '\n' ∉ onOneLine source ∧
      (Text.parse? (onOneLine source)).isSome := by
  unfold sourceLine onOneLine
  by_cases h : octet '\n' ∈ source
  · obtain ⟨v, hv⟩ := Option.isSome_iff_exists.1 (meaning h)
    simp only [if_pos h, hv, Option.map_some, Option.getD_some]
    refine ⟨trivial, v.lineFeed_notMem_write, ?_⟩
    rw [Value.write, Text.parse?_write v.wellFormed_toText]
    rfl
  · simp only [if_neg h]
    exact ⟨trivial, h, form⟩

private theorem finish_of_complete (number : Nat) (h : a.Complete) (sequence epoch : Option UInt64)
    (source : Option Bytes) :
    finish number ⟨a.kind, a.index, a.id, sequence, epoch⟩ a.version source =
      .ok ⟨a.kind, a.index, a.id, a.version, source⟩ := by
  unfold finish
  rw [if_neg]
  rintro ⟨kind, id⟩
  have named := h.named kind
  simp only at id
  simp [id] at named

/-- The lines of a body after a line that is not blank. -/
theorem linesFrom_append (number : Nat) {line : Bytes} (hline : octet '\n' ∉ line)
    (blank : Bytes.isBlank line = false) :
    linesFrom number (pieces (octet '\n') (line ++ octet '\n' :: rest)) =
      ⟨number, line⟩ :: linesFrom (number + 1) (pieces (octet '\n') rest) := by
  rw [pieces_append hline, linesFrom, if_neg (by simp [blank])]

/-- What the line of an action tells. -/
def target (a : Action) : Target :=
  ⟨a.kind, a.index, a.id, Version.sequence? a.version, Version.epoch? a.version⟩

/-- An action with a document is taken off the front of a body as two lines, if both are seen. -/
theorem decodeLines_document (hk : a.kind.hasSource = true) {line : Bytes}
    (oneLine : octet '\n' ∉ line) (blank : Bytes.isBlank line = false) (number : Nat) :
    decodeLines (linesFrom number (pieces (octet '\n')
      (actionLine a ++ octet '\n' :: line ++ [octet '\n'] ++ rest))) =
        if (Text.parse? line).isNone then .error (.bulk (number + 1) .json)
        else do
          let action ← finish number (target a) a.version (some line)
          return action ::
            (← decodeLines (linesFrom (number + 1 + 1) (pieces (octet '\n') rest))) := by
  have framed : actionLine a ++ octet '\n' :: line ++ [octet '\n'] ++ rest =
      actionLine a ++ octet '\n' :: (line ++ octet '\n' :: rest) := by simp
  rw [framed, linesFrom_append number (lineFeed_notMem_actionLine a) (isBlank_actionLine a),
    linesFrom_append (number + 1) oneLine blank, decodeLines, readAction_actionLine]
  simp only [bind, Except.bind, hk, ↓reduceIte]
  rfl

/-- An action without a document is taken off the front of a body as one line. -/
theorem decodeLines_noDocument (hk : a.kind.hasSource = false) (number : Nat) :
    decodeLines (linesFrom number (pieces (octet '\n')
      (actionLine a ++ [octet '\n'] ++ rest))) = do
        let action ← finish number (target a) a.version none
        return action :: (← decodeLines (linesFrom (number + 1) (pieces (octet '\n') rest))) := by
  have framed : actionLine a ++ [octet '\n'] ++ rest = actionLine a ++ octet '\n' :: rest := by
    simp
  rw [framed, linesFrom_append number (lineFeed_notMem_actionLine a) (isBlank_actionLine a),
    decodeLines, readAction_actionLine]
  simp only [bind, Except.bind, hk, Bool.false_eq_true, ↓reduceIte]
  rfl

/-- One action is taken off the front of a body: its lines are encoded, and decoded to the
action as it arrives, whatever lines follow. -/
private theorem encodeAction_of_complete (h : a.Complete) :
    ∃ lines, encodeAction a = .ok lines ∧ ∀ rest number, ∃ next,
      decodeLines (linesFrom number (pieces (octet '\n') (lines ++ rest))) = do
        return a.carried :: (← decodeLines (linesFrom next (pieces (octet '\n') rest))) := by
  cases hk : a.kind.hasSource with
  | true =>
    obtain ⟨source, hs, form, meaning⟩ := h.source hk
    obtain ⟨line, oneLine, json⟩ := sourceLine_onOneLine form meaning
    -- The decoder passes over blank lines, but a line that is JSON is not blank.
    have blank : Bytes.isBlank (onOneLine source) = false := by
      by_contra hblank
      rw [parse?_of_isBlank (eq_true_of_ne_false hblank)] at json
      simp at json
    refine ⟨actionLine a ++ octet '\n' :: onOneLine source ++ [octet '\n'], ?_, ?_⟩
    · rw [encodeAction, if_pos hk, hs]
      simp only [line]
      rfl
    · intro rest number
      refine ⟨number + 1 + 1, ?_⟩
      have some : (Text.parse? (onOneLine source)).isNone = false := by
        rw [Option.isNone_eq_false_iff]
        exact json
      rw [decodeLines_document hk oneLine blank]
      simp only [bind, Except.bind, some, Bool.false_eq_true, ↓reduceIte, target,
        finish_of_complete number h, Action.carried, hs, Option.map_some]
  | false =>
    refine ⟨actionLine a ++ [octet '\n'], by rw [encodeAction, if_neg (by simp [hk])], ?_⟩
    intro rest number
    refine ⟨number + 1, ?_⟩
    rw [decodeLines_noDocument hk]
    simp only [bind, Except.bind, target, finish_of_complete number h, Action.carried,
      h.noSource hk, Option.map_none]

/-- The lines of a body, whatever the number of the first, are decoded to the actions as they
arrive. -/
theorem decodeLines_encode (h : ∀ a ∈ as, a.Complete) :
    ∃ body, encode as = .ok body ∧ ∀ number,
      decodeLines (linesFrom number (pieces (octet '\n') body)) = .ok (as.map Action.carried) := by
  induction as with
  | nil => exact ⟨[], rfl, fun _ => rfl⟩
  | cons a as ih =>
    -- The lines of the first action are taken off; the number of the next line does not matter.
    obtain ⟨lines, hlines, step⟩ := encodeAction_of_complete (h a List.mem_cons_self)
    obtain ⟨body, hbody, others⟩ := ih fun b hb => h b (List.mem_cons_of_mem _ hb)
    refine ⟨lines ++ body, ?_, fun number => ?_⟩
    · simp only [encode, bind, Except.bind, hlines, hbody]
      rfl
    · obtain ⟨next, hnext⟩ := step body number
      rw [hnext, others next]
      rfl

/-- Complete actions are encoded, and their body is decoded to the same actions in the same
order: each document octet for octet if it has no line feed, and else as the compact text of
the same JSON value. -/
theorem decode_encode_of_complete (h : ∀ a ∈ as, a.Complete) :
    ∃ body, encode as = .ok body ∧ decode body = .ok (as.map Action.carried) := by
  obtain ⟨body, hbody, decoded⟩ := decodeLines_encode h
  exact ⟨body, hbody, decoded 1⟩

/-- Three actions: a create whose document has a line feed and a member, a delete of a version,
and a put under an id that has a line feed. -/
def mixed : List Action :=
  [.create none (word "\x7b\"n\":\n1\x7d"), .delete "9" (some ⟨2, 7⟩),
    .put "a\nb" none (word "\x7b\x7d")]

theorem decode_encode_mixed :
    (∀ a ∈ mixed, a.Complete) ∧
      ∃ body, encode mixed = .ok body ∧ decode body = .ok (mixed.map Action.carried) := by
  have complete : ∀ a ∈ mixed, a.Complete := by
    simp only [mixed, List.forall_mem_cons, List.not_mem_nil, false_imp_iff, implies_true, and_true]
    refine ⟨⟨fun _ => ⟨_, rfl, ?_, fun _ => ?_⟩, ?_, ?_⟩, ⟨?_, ?_, ?_⟩,
      ⟨fun _ => ⟨_, rfl, ?_, ?_⟩, ?_, ?_⟩⟩
    all_goals decide +kernel
  exact ⟨complete, decode_encode_of_complete complete⟩

end Bulk

end VersionedStore
