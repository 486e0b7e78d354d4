import VersionedStore.Bulk.Body
import VersionedStore.Proofs.Data.Answer

/-!
# One action after another

The decoder takes the actions of a bulk body off the front of its lines: the line of the action
and, if a document comes with it, the next line. What is told of a line that cannot be read is a
matter of the reader of JSON, and depends on the octets of this one line and on what it was looked
at for; so it is a parameter here, and `Bulk.decode` is the decoder that tells the least.

## Main definitions

* `Bulk.Verdicts` — what is told of lines that cannot be read
* `Bulk.Verdicts.take` — an action, and the lines behind it
* `Bulk.Verdicts.decode` — decoding, one action after another

## Main results

* `Bulk.Verdicts.take_eq_ok` — what an action has that was taken
* `Bulk.Verdicts.take_eq_error` — every fault is told of a line
* `Bulk.decode_eq_plain` — the decoder takes one action after another
-/

namespace VersionedStore.Bulk

open Json

/-! ## Actions that have all they need -/

theorem finish_eq_ok_iff {number : Nat} {t : Target} {version : Option Version}
    {source : Option Bytes} {a : Action} : finish number t version source = .ok a ↔
      (t.kind ≠ .create → t.id.isSome) ∧ a = ⟨t.kind, t.index, t.id, version, source⟩ := by
  unfold finish
  split
  · next h => simp [h]
  · next h =>
    have named : t.kind ≠ .create → t.id.isSome := fun kind =>
      Option.isSome_iff_ne_none.2 fun id => h ⟨kind, id⟩
    rw [Except.ok.injEq, and_iff_right named, eq_comm]

theorem finish_eq_error {number : Nat} {t : Target} {version : Option Version}
    {source : Option Bytes} {e : Wire.Error} (h : finish number t version source = .error e) :
    ∃ fault, e = .bulk number fault := by
  unfold finish at h
  split at h
  · exact ⟨_, (Except.error.inj h).symm⟩
  · simp at h

/-! ## Taking actions -/

/-- What is told of the lines that cannot be read, by their octets. -/
structure Verdicts where
  /-- Of a line that is no JSON or no action, where an action is looked for. -/
  action : Bytes → Wire.BulkFault
  /-- Of a line that is no JSON, where a document is looked for. -/
  document : Bytes → Wire.BulkFault

namespace Verdicts

/-- No more is told than that a line cannot be read. -/
def plain : Verdicts := ⟨fun _ => .json, fun _ => .json⟩

variable (v : Verdicts)

/-- What the line of an action tells, and the version it names. -/
def readAction (l : Line) : Except Wire.Error (Target × Option Version) :=
  match parseTarget? l.content with
  | none => .error (.bulk l.number (v.action l.content))
  | some t =>
    match Version.ofParts? t.sequence t.epoch with
    | none => .error (.bulk l.number .halfVersion)
    | some version => .ok (t, version)

/-- Takes the document of an action from the lines behind its own, if it comes with one, and leaves
the others of these lines. -/
def takeSource (l : Line) (kind : Action.Kind) (ls : List Line) :
    Except Wire.Error (Option Bytes × List Line) :=
  if kind.hasSource then
    match ls with
    | [] => .error (.bulk l.number .noSourceLine)
    | s :: rest =>
      if (Text.parse? s.content).isSome then .ok (some s.content, rest)
      else .error (.bulk s.number (v.document s.content))
  else .ok (none, ls)

/-- Takes the action of a line, and leaves the lines behind those of the action. -/
def take (l : Line) (ls : List Line) : Except Wire.Error (Action × List Line) := do
  let (t, version) ← v.readAction l
  let (source, rest) ← v.takeSource l t.kind ls
  return (← finish l.number t version source, rest)

end Verdicts

/-! ## What was taken -/

/-- What a decoded action has from the lines that follow its own: a document, if it comes with one,
is one of them, and JSON in form; a put or a delete names its document. -/
structure Comes (ls : List Line) (a : Action) : Prop where
  source : a.kind.hasSource = true →
    ∃ s ∈ ls, a.source = some s.content ∧ (Text.parse? s.content).isSome
  noSource : a.kind.hasSource = false → a.source = none
  named : a.kind ≠ .create → a.id.isSome

theorem Comes.mono {ls ms : List Line} {a : Action} (h : Comes ls a) (sub : ls ⊆ ms) :
    Comes ms a where
  source kind := by
    obtain ⟨s, hs, document⟩ := h.source kind
    exact ⟨s, sub hs, document⟩
  noSource := h.noSource
  named := h.named

namespace Verdicts

variable {v : Verdicts} {l : Line} {ls rest : List Line} {a : Action}

theorem takeSource_eq_ok {kind : Action.Kind} {source : Option Bytes}
    (h : v.takeSource l kind ls = .ok (source, rest)) :
    (kind.hasSource = true → ∃ s ∈ ls, source = some s.content ∧ (Text.parse? s.content).isSome) ∧
      (kind.hasSource = false → source = none) ∧ rest <:+ ls := by
  unfold takeSource at h
  split at h
  · next document =>
    split at h
    · simp at h
    · next s others =>
      split at h
      · next json =>
        obtain ⟨rfl, rfl⟩ := Prod.mk.inj (Except.ok.inj h)
        exact ⟨fun _ => ⟨s, List.mem_cons_self, rfl, json⟩, fun noDocument =>
          absurd document (by simp [noDocument]), List.suffix_cons s others⟩
      · simp at h
  · next noDocument =>
    obtain ⟨rfl, rfl⟩ := Prod.mk.inj (Except.ok.inj h)
    exact ⟨fun document => absurd document noDocument, fun _ => rfl, List.suffix_rfl⟩

/-- The action that is taken comes from the lines behind its own, and no lines are left but the
last ones of these. -/
theorem take_eq_ok (h : v.take l ls = .ok (a, rest)) : Comes ls a ∧ rest <:+ ls := by
  obtain ⟨⟨t, version⟩, -, h⟩ := bind_eq_ok_iff.1 h
  obtain ⟨⟨source, others⟩, taken, h⟩ := bind_eq_ok_iff.1 h
  obtain ⟨b, finished, h⟩ := bind_eq_ok_iff.1 h
  obtain ⟨rfl, rfl⟩ := Prod.mk.inj (Except.ok.inj h)
  obtain ⟨named, rfl⟩ := finish_eq_ok_iff.1 finished
  obtain ⟨document, noDocument, left⟩ := takeSource_eq_ok taken
  exact ⟨⟨document, noDocument, named⟩, left⟩

/-- The actions of the lines of a body. -/
def decodeLines (v : Verdicts) : List Line → Except Wire.Error (List Action)
  | [] => .ok []
  | l :: ls =>
    match taken : v.take l ls with
    | .error e => .error e
    | .ok (a, rest) =>
      have : rest.length ≤ ls.length := (take_eq_ok taken).2.length_le
      (decodeLines v rest).map (a :: ·)
termination_by ls => ls.length

variable (v)

/-- The actions of a body. -/
def decode (body : Bytes) : Except Wire.Error (List Action) :=
  v.decodeLines (linesFrom 1 (pieces (octet '\n') body))

theorem decodeLines_nil : v.decodeLines [] = .ok [] := by rw [decodeLines]

theorem decodeLines_cons (l : Line) (ls : List Line) :
    v.decodeLines (l :: ls) = do
      let (a, rest) ← v.take l ls
      return a :: (← v.decodeLines rest) := by
  rw [decodeLines]
  split
  · next taken => rw [taken]; rfl
  · next rest taken =>
    simp only [taken, bind, Except.bind]
    cases v.decodeLines rest <;> rfl

variable {v}

/-- Every action that is decoded comes from the lines of the body. -/
theorem comes_of_decodeLines {as : List Action} (h : v.decodeLines ls = .ok as) :
    ∀ a ∈ as, Comes ls a := by
  fun_induction v.decodeLines ls generalizing as with
  | case1 =>
    rw [← Except.ok.inj h]
    simp
  | case2 => simp at h
  | case3 l ls a rest taken _ ih =>
    obtain ⟨others, decoded, rfl⟩ := map_eq_ok_iff.1 h
    obtain ⟨comes, left⟩ := take_eq_ok taken
    rw [List.forall_mem_cons]
    exact ⟨comes.mono (List.subset_cons_self l ls), fun b hb =>
      (ih decoded b hb).mono (List.subset_cons_of_subset l left.subset)⟩

theorem readAction_eq_error {e : Wire.Error} (h : v.readAction l = .error e) :
    ∃ fault, e = .bulk l.number fault := by
  unfold readAction at h
  split at h
  · exact ⟨_, (Except.error.inj h).symm⟩
  · split at h
    · exact ⟨_, (Except.error.inj h).symm⟩
    · simp at h

theorem takeSource_eq_error {kind : Action.Kind} {e : Wire.Error}
    (h : v.takeSource l kind ls = .error e) : ∃ number fault, e = .bulk number fault := by
  unfold takeSource at h
  split at h
  · split at h
    · exact ⟨_, _, (Except.error.inj h).symm⟩
    · split at h
      · simp at h
      · exact ⟨_, _, (Except.error.inj h).symm⟩
  · simp at h

/-- Every fault is told of a line. -/
theorem take_eq_error {e : Wire.Error} (h : v.take l ls = .error e) :
    ∃ number fault, e = .bulk number fault := by
  obtain unread | ⟨⟨t, version⟩, -, h⟩ := bind_eq_error_iff.1 h
  · exact ⟨_, readAction_eq_error unread⟩
  obtain missing | ⟨⟨source, others⟩, -, h⟩ := bind_eq_error_iff.1 h
  · exact takeSource_eq_error missing
  obtain unnamed | ⟨b, -, h⟩ := bind_eq_error_iff.1 h
  · exact ⟨_, finish_eq_error unnamed⟩
  · cases h

end Verdicts

/-- The decoder takes one action after another, and tells no more of a line than that it cannot be
read. -/
theorem decodeLines_eq_plain (ls : List Line) : decodeLines ls = Verdicts.plain.decodeLines ls := by
  fun_induction decodeLines ls with
  | case1 => rw [Verdicts.decodeLines_nil]
  | case2 l ls afterSource afterLine =>
    rw [Verdicts.decodeLines_cons, Verdicts.take,
      show readAction l = Verdicts.plain.readAction l from rfl]
    cases Verdicts.plain.readAction l with
    | error e => rfl
    | ok r =>
      obtain ⟨t, version⟩ := r
      by_cases document : t.kind.hasSource
      · cases ls with
        | nil => simp only [bind, Except.bind, Verdicts.takeSource, document, ↓reduceIte]; rfl
        | cons s rest =>
          simp only [bind, Except.bind, Verdicts.takeSource, document, ↓reduceIte, afterSource]
          cases Text.parse? s.content with
          | none => rfl
          | some _ =>
            simp only [Option.isNone_some, Option.isSome_some, Bool.false_eq_true, ↓reduceIte]
            cases finish l.number t version (some s.content) <;> rfl
      · simp only [bind, Except.bind, Verdicts.takeSource, document, afterLine, Bool.false_eq_true,
          ↓reduceIte]
        cases finish l.number t version none <;> rfl

theorem decode_eq_plain : decode = Verdicts.plain.decode :=
  funext fun _ => decodeLines_eq_plain _

end VersionedStore.Bulk
