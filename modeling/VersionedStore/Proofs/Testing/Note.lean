import VersionedStore.Proofs.Json.Proper
import VersionedStore.Store.Basic
import VersionedStore.Testing.Note

/-!
# Notes in a store

A note is stored as an object whose members are in the order of their keys, not of the fields
of the note; its codec reads the note off either.

## Main definitions

* `Note.value` — the document that a store makes of a note

## Main results

* `Note.parseSource_encode` — a store takes the encoding of a note
* `Note.decode_value` — and the note is read off the document
* `Note.reread_value` — the document is read again as it is
* `Note.decode_reread` — also after the document was written and read again
-/

namespace VersionedStore

open Json

namespace Note

variable (n : Note)

/-- The document that a store makes of a note. -/
def value : Value :=
  .object [("count", .number (.unsigned n.count)), ("title", .string n.title)]

theorem wellFormed_toText : n.toText.WellFormed := by
  refine Text.wellFormed_ofMembers ?_
  simp [Text.wellFormed_ofString, Text.wellFormed_ofNat]

theorem parse?_toText : Value.parse? n.toText.write = some n.value := by
  have number : Number.ofLiteral? ⟨false, Decimal.digits n.count.toNat, none, none⟩ =
      some (.unsigned n.count) := Number.ofLiteral?_digits n.count
  rw [Value.parse?, Text.parse?_write n.wellFormed_toText]
  simp only [toText, Text.ofMembers, Text.ofString, Text.ofNat, List.map_cons, List.map_nil,
    nestingLimit, Value.ofText?, Value.ofMembers?, Symbol.meaning?_ofString, Option.map_some,
    number]
  simp [Entries.insert, value, show "count" < "title" by decide]

theorem parseSource_encode : Store.parseSource n.toText.write = .ok n.value := by
  rw [Store.parseSource, n.parse?_toText]
  rfl

private theorem decode_write (v : Value) :
    codec.decode v.write =
      (Note.read nestingLimit v.toText).elim (.error (.codec faultText)) .ok := by
  have parsed : Wire.parse? Note.read v.write = Note.read nestingLimit v.toText := by
    rw [Wire.parse?, Value.write, Text.parse?_write v.wellFormed_toText, Option.bind_some]
  simp only [codec, Codec.ofReader, parsed]
  cases Note.read nestingLimit v.toText <;> rfl

theorem decode_value : codec.decode n.value.write = .ok n := by
  have text : n.value.toText =
      .ofMembers [("count", .ofNat n.count.toNat), ("title", .ofString n.title)] := rfl
  have read : Note.read nestingLimit n.value.toText = some n := by
    rw [text, Note.read, nestingLimit,
      Record.ofText?_ofMembers_of_nodup (by simp [fields, Field.required, Field.omitted])
        (by simp)]
    simp only [Option.bind_eq_bind, Option.bind_some]
    rw [Record.required_of_lookup (by simp [List.lookup_cons]; rfl), Reader.string_ofString,
      Option.bind_some, Record.orDefault_of_lookup List.lookup_cons_self, Reader.word64_ofNat]
    rfl
  rw [decode_write, read, Option.elim_some]

/-- The document of a note is read again as it is. -/
theorem reread_value : n.value.reread = n.value :=
  Value.reread_eq ⟨Number.reread_unsigned n.count, trivial, trivial⟩

/-- It makes no difference to a note whether its document was written and read again. -/
theorem decode_reread {ms : List (String × Value)} (ascending : Entries.Ascending ms) {level : Nat}
    {v : Value} (h : Value.ofText? level (Value.object ms).toText = some v) :
    codec.decode v.write = codec.decode (Value.object ms).write := by
  obtain ⟨ms', rfl, members⟩ := Value.members_reread ascending h
  have same : Note.read nestingLimit (Value.object ms').toText =
      Note.read nestingLimit (Value.object ms).toText := by
    have given : Option.Rel Record.FieldsResemble
        (Record.ofMembers? fields [] (Value.membersToText ms))
        (Record.ofMembers? fields [] (Value.membersToText ms')) :=
      Record.ofMembers?_resembling .nil members
    simp only [Note.read, Value.toText, nestingLimit, Record.ofText?]
    generalize Record.ofMembers? fields [] (Value.membersToText ms) = r,
      Record.ofMembers? fields [] (Value.membersToText ms') = r' at given
    cases given with
    | none => rfl
    | some fs =>
      simp only [Option.map_some, Option.bind_eq_bind, Option.bind_some, fs.required_string,
        fs.orDefault_word64]
  rw [decode_write, decode_write, same]

end Note

end VersionedStore
