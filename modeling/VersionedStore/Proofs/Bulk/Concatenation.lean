import Mathlib.Data.List.Basic
import VersionedStore.Proofs.Bulk.Steps
import VersionedStore.Proofs.Data.Pieces

/-!
# Bodies one behind the other

A body that ends with a line can be decoded apart from what follows it: the actions of both come
one behind the other, and a fault in either is told as before, but for the number of its line,
which goes on counting. Only a body that ends within an action, whose document would be the next
line, is not told apart.

## Main definitions

* `Bulk.Line.later`, `Wire.Error.later` — a line further down, and a fault in it
* `Bulk.Composes` — a decoder decodes two bodies one behind the other as it decodes each

## Main results

* `Bulk.Verdicts.decodeLines_append` — the lines of an action stay together
* `Bulk.Verdicts.decodeLines_later` — no answer depends on where the lines begin
* `Bulk.decode_concatenated` — bodies are decoded one behind the other
-/

namespace VersionedStore

open Json

/-- A fault in a line that is further down. -/
def Wire.Error.later (n : Nat) : Wire.Error → Wire.Error
  | .bulk number fault => .bulk (number + n) fault
  | e => e

namespace Bulk

/-- A line further down. -/
def Line.later (n : Nat) (l : Line) : Line := { l with number := l.number + n }

/-! ## Lines of two bodies -/

theorem linesFrom_later (number n : Nat) (ps : List Bytes) :
    linesFrom (number + n) ps = (linesFrom number ps).map (Line.later n) := by
  induction ps generalizing number with
  | nil => rfl
  | cons p ps ih =>
    rw [linesFrom, linesFrom, Nat.add_right_comm, ih]
    split <;> rfl

theorem linesFrom_append_pieces (number : Nat) (ps qs : List Bytes) :
    linesFrom number (ps ++ qs) = linesFrom number ps ++ linesFrom (number + ps.length) qs := by
  induction ps generalizing number with
  | nil => rfl
  | cons p ps ih =>
    rw [List.cons_append, linesFrom, linesFrom, ih, List.length_cons, Nat.add_right_comm,
      ← Nat.add_assoc]
    split <;> rfl

/-- The lines of a body that ends with a line come first, and the others go on counting. -/
theorem linesFrom_concatenated {b₁ : Bytes} (whole : b₁ = [] ∨ b₁.getLast? = some (octet '\n'))
    (b₂ : Bytes) :
    linesFrom 1 (pieces (octet '\n') (b₁ ++ b₂)) = linesFrom 1 (pieces (octet '\n') b₁) ++
      (linesFrom 1 (pieces (octet '\n') b₂)).map (Line.later (b₁.count (octet '\n'))) := by
  obtain rfl | last := whole
  · rw [List.nil_append, List.count_nil, ← linesFrom_later]
    rfl
  -- Behind the last line feed there is one more piece, which is empty and so no line.
  · obtain ⟨b, rfl⟩ := List.getLast?_eq_some_iff.1 last
    rw [List.append_assoc, List.singleton_append, pieces_append_cons, pieces_append_cons,
      linesFrom_append_pieces, linesFrom_append_pieces, length_pieces, List.count_append,
      ← linesFrom_later]
    simp [pieces, linesFrom, Bytes.isBlank]

namespace Verdicts

variable (v : Verdicts)

/-! ## Lines further down -/

theorem readAction_later (n : Nat) (l : Line) :
    v.readAction (l.later n) = (v.readAction l).mapError (Wire.Error.later n) := by
  unfold readAction
  rw [Line.later]
  cases parseTarget? l.content with
  | none => rfl
  | some t =>
    simp only
    cases Version.ofParts? t.sequence t.epoch <;> rfl

theorem finish_later (n number : Nat) (t : Target) (version : Option Version)
    (source : Option Bytes) : finish (number + n) t version source =
      (finish number t version source).mapError (Wire.Error.later n) := by
  unfold finish
  split <;> rfl

theorem takeSource_later (n : Nat) (l : Line) (kind : Action.Kind) (ls : List Line) :
    v.takeSource (l.later n) kind (ls.map (Line.later n)) =
      ((v.takeSource l kind ls).map fun r => (r.1, r.2.map (Line.later n))).mapError
        (Wire.Error.later n) := by
  unfold takeSource
  split
  · cases ls with
    | nil => rfl
    | cons s rest =>
      simp only [List.map_cons, Line.later]
      split <;> rfl
  · rfl

theorem take_later (n : Nat) (l : Line) (ls : List Line) :
    v.take (l.later n) (ls.map (Line.later n)) =
      ((v.take l ls).map fun r => (r.1, r.2.map (Line.later n))).mapError (Wire.Error.later n) := by
  unfold take
  rw [readAction_later]
  cases v.readAction l with
  | error e => rfl
  | ok r =>
    obtain ⟨t, version⟩ := r
    simp only [bind, Except.bind, Except.mapError, takeSource_later]
    cases v.takeSource l t.kind ls with
    | error e => rfl
    | ok r =>
      obtain ⟨source, rest⟩ := r
      simp only [Except.map, Line.later, finish_later]
      cases finish l.number t version source <;> rfl

/-- No answer depends on where the lines begin, but for the line that a fault is told of. -/
theorem decodeLines_later (n : Nat) (ls : List Line) :
    v.decodeLines (ls.map (Line.later n)) = (v.decodeLines ls).mapError (Wire.Error.later n) := by
  fun_induction v.decodeLines ls with
  | case1 => rw [List.map_nil, decodeLines_nil]; rfl
  | case2 l ls e taken =>
    rw [List.map_cons, decodeLines_cons, take_later, taken]
    rfl
  | case3 l ls a rest taken _ ih =>
    rw [List.map_cons, decodeLines_cons, take_later, taken]
    simp only [Except.map, Except.mapError, bind, Except.bind, ih]
    cases v.decodeLines rest <;> rfl

/-! ## Lines one behind the other -/

theorem takeSource_append (l : Line) (kind : Action.Kind) (ls ms : List Line) :
    v.takeSource l kind (ls ++ ms) = (v.takeSource l kind ls).map (fun r => (r.1, r.2 ++ ms)) ∨
      v.takeSource l kind ls = .error (.bulk l.number .noSourceLine) := by
  unfold takeSource
  split
  · cases ls with
    | nil => exact .inr rfl
    | cons s rest =>
      left
      simp only [List.cons_append]
      split <;> rfl
  · exact .inl rfl

/-- Lines behind those of an action are left, unless the document of the action is missing. -/
theorem take_append (l : Line) (ls ms : List Line) :
    v.take l (ls ++ ms) = (v.take l ls).map (fun r => (r.1, r.2 ++ ms)) ∨
      v.take l ls = .error (.bulk l.number .noSourceLine) := by
  unfold take
  cases v.readAction l with
  | error e => exact .inl rfl
  | ok r =>
    obtain ⟨t, version⟩ := r
    simp only [bind, Except.bind]
    obtain same | missing := v.takeSource_append l t.kind ls ms
    · left
      rw [same]
      cases v.takeSource l t.kind ls with
      | error e => rfl
      | ok r =>
        obtain ⟨source, rest⟩ := r
        simp only [Except.map]
        cases finish l.number t version source <;> rfl
    · right
      rw [missing]

theorem decodeLines_append (ls ms : List Line) :
    v.decodeLines (ls ++ ms) = (do return (← v.decodeLines ls) ++ (← v.decodeLines ms)) ∨
      ∃ number, v.decodeLines ls = .error (.bulk number .noSourceLine) := by
  fun_induction v.decodeLines ls with
  | case1 =>
    left
    rw [List.nil_append]
    cases v.decodeLines ms <;> rfl
  | case2 l ls e taken =>
    obtain same | missing := v.take_append l ls ms
    · left
      rw [List.cons_append, decodeLines_cons, same, taken]
      rfl
    · rw [taken] at missing
      exact .inr ⟨l.number, congrArg _ (Except.error.inj missing)⟩
  | case3 l ls a rest taken _ ih =>
    obtain same | missing := v.take_append l ls ms
    · obtain both | ⟨number, missing⟩ := ih
      · left
        rw [List.cons_append, decodeLines_cons, same, taken]
        simp only [Except.map, bind, Except.bind, both]
        cases v.decodeLines rest with
        | error e => rfl
        | ok as => cases v.decodeLines ms <;> rfl
      · exact .inr ⟨number, by rw [missing]; rfl⟩
    · simp [taken] at missing

/-- Every fault is told of a line. -/
theorem decodeLines_eq_error {ls : List Line} {e : Wire.Error} (h : v.decodeLines ls = .error e) :
    ∃ number fault, e = .bulk number fault := by
  fun_induction v.decodeLines ls with
  | case1 => simp at h
  | case2 l ls e' taken =>
    rw [← Except.error.inj h]
    exact take_eq_error taken
  | case3 l ls a rest taken _ ih => exact ih (map_eq_error_iff.1 h)

end Verdicts

/-! ## Bodies one behind the other -/

/-- How a decoder decodes two bodies one behind the other, by what it answers to each of them. -/
structure Composes (decode : Bytes → Except Wire.Error (List Action)) (b₁ b₂ : Bytes) : Prop where
  /-- If both are accepted, their actions come one behind the other. -/
  accepted : ∀ as₁ as₂, decode b₁ = .ok as₁ → decode b₂ = .ok as₂ →
    decode (b₁ ++ b₂) = .ok (as₁ ++ as₂)
  /-- If only the second one is refused, its fault is told of a line that is further down by the
  lines of the first one. -/
  later : ∀ as₁ e, decode b₁ = .ok as₁ → decode b₂ = .error e → ∃ number fault,
    e = .bulk number fault ∧
      decode (b₁ ++ b₂) = .error (.bulk (number + b₁.count (octet '\n')) fault)
  /-- If the first one is refused, its fault is told of both, unless it is only that there is no
  line any more for the document of the last action. -/
  first : ∀ e, decode b₁ = .error e → ∃ number fault,
    e = .bulk number fault ∧ (fault ≠ .noSourceLine → decode (b₁ ++ b₂) = .error e)

theorem Verdicts.composes (v : Verdicts) {b₁ : Bytes}
    (whole : b₁ = [] ∨ b₁.getLast? = some (octet '\n')) (b₂ : Bytes) :
    Composes v.decode b₁ b₂ := by
  have lines := linesFrom_concatenated whole b₂
  -- Both bodies are decoded as their lines are, unless the first one ends within an action.
  have both := v.decodeLines_append (linesFrom 1 (pieces (octet '\n') b₁))
    ((linesFrom 1 (pieces (octet '\n') b₂)).map (Line.later (b₁.count (octet '\n'))))
  rw [← lines, decodeLines_later] at both
  constructor
  · intro as₁ as₂ h₁ h₂
    rw [decode] at h₁ h₂ ⊢
    rw [h₁, h₂] at both
    exact both.resolve_right (by simp)
  · intro as₁ e h₁ h₂
    obtain ⟨number, fault, rfl⟩ := v.decodeLines_eq_error h₂
    rw [decode] at h₁ h₂
    rw [h₁, h₂] at both
    exact ⟨number, fault, rfl, both.resolve_right (by simp)⟩
  · intro e h₁
    obtain ⟨number, fault, rfl⟩ := v.decodeLines_eq_error h₁
    refine ⟨number, fault, rfl, fun other => ?_⟩
    rw [decode] at h₁
    rw [h₁] at both
    exact both.resolve_right (by simp [other])

/-- Two bodies, of which the first one ends with a line, are decoded one behind the other as each
of them is decoded, whatever is told of the lines that cannot be read. -/
theorem decode_concatenated {b₁ : Bytes} (whole : b₁ = [] ∨ b₁.getLast? = some (octet '\n'))
    (b₂ : Bytes) : Composes decode b₁ b₂ ∧ ∀ v : Verdicts, Composes v.decode b₁ b₂ := by
  rw [decode_eq_plain]
  exact ⟨Verdicts.plain.composes whole b₂, fun v => v.composes whole b₂⟩

/-- A delete, and a blank line behind it. -/
def deleteBlank : Bytes := word "\x7b\"delete\":\x7b\"_id\":\"1\"\x7d\x7d\n \n"

/-- A create whose document is behind a blank line, and a line that is no action. -/
def createStray : Bytes := word "\x7b\"create\":\x7b\x7d\x7d\n\n\x7b\x7d\n\x7b\x7d"

/-- The stray line is the fourth one of its body, and the sixth one of both. -/
theorem decode_concatenated_stray :
    (deleteBlank = [] ∨ deleteBlank.getLast? = some (octet '\n')) ∧
      decode deleteBlank = .ok [.delete "1" none] ∧
      decode createStray = .error (.bulk 4 .json) ∧
      decode (deleteBlank ++ createStray) = .error (.bulk 6 .json) := by
  have whole : deleteBlank.getLast? = some (octet '\n') := by decide
  have delete : decode deleteBlank = .ok [.delete "1" none] := by decide +kernel
  have stray : decode createStray = .error (.bulk 4 .json) := by decide +kernel
  obtain ⟨number, fault, told, both⟩ :=
    (decode_concatenated (.inr whole) createStray).1.later _ _ delete stray
  have lines : deleteBlank.count (octet '\n') = 2 := by decide
  obtain ⟨rfl, rfl⟩ : 4 = number ∧ Wire.BulkFault.json = fault := by simpa using told
  rw [lines] at both
  exact ⟨.inr whole, delete, stray, both⟩

end Bulk

end VersionedStore
