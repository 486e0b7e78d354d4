import VersionedStore.Proofs.Bulk.RoundTrip
import VersionedStore.Proofs.Bulk.Steps

/-!
# Bodies written anew

The decoder takes more texts than the encoder writes: blank lines, white space, fields in any order
and fields that it does not know. All that it keeps of them is what the encoder writes again, so a
body that was decoded and encoded once stays as it is from then on.

## Main definitions

* `Bulk.Settled` — an action that a body carries as it is

## Main results

* `Bulk.settled_of_decode` — every action that is decoded is one that a body carries as it is
* `Bulk.encode_of_decode` — what was decoded is encoded to a body that is decoded to the same
-/

namespace VersionedStore.Bulk

open Json

/-! ## Actions that arrive as they are -/

/-- An action that a body carries as it is: the document of a create or a put is on one line, which
is not blank, and JSON in form; a delete has none; a put or a delete names its document. -/
structure Settled (a : Action) : Prop where
  source : a.kind.hasSource = true → ∃ s, a.source = some s ∧ octet '\n' ∉ s ∧
    Bytes.isBlank s = false ∧ (Text.parse? s).isSome
  noSource : a.kind.hasSource = false → a.source = none
  named : a.kind ≠ .create → a.id.isSome

variable {a : Action}

theorem Settled.complete (h : Settled a) : a.Complete where
  source kind := by
    obtain ⟨s, document, oneLine, -, json⟩ := h.source kind
    exact ⟨s, document, json, fun feed => absurd feed oneLine⟩
  noSource := h.noSource
  named := h.named

/-- It arrives as it is. -/
theorem Settled.carried_eq (h : Settled a) : a.carried = a := by
  cases kind : a.kind.hasSource with
  | false => rw [Action.carried, h.noSource kind, Option.map_none, ← h.noSource kind]
  | true =>
    obtain ⟨s, document, oneLine, -, -⟩ := h.source kind
    rw [Action.carried, document, Option.map_some, onOneLine, if_neg oneLine, ← document]

/-! ## What the lines of a body are -/

/-- The lines of a body are its pieces that are not blank. -/
theorem of_mem_linesFrom {number : Nat} {ps : List Bytes} {l : Line}
    (h : l ∈ linesFrom number ps) : l.content ∈ ps ∧ Bytes.isBlank l.content = false := by
  induction ps generalizing number with
  | nil => simp [linesFrom] at h
  | cons p ps ih =>
    rw [linesFrom] at h
    split at h
    · obtain ⟨piece, seen⟩ := ih h
      exact ⟨List.mem_cons_of_mem p piece, seen⟩
    · next seen =>
      obtain rfl | h := List.mem_cons.1 h
      · exact ⟨List.mem_cons_self, by simpa using seen⟩
      · obtain ⟨piece, seen⟩ := ih h
        exact ⟨List.mem_cons_of_mem p piece, seen⟩

/-- Every action that is decoded arrives as it is when it is encoded again. -/
theorem settled_of_decode {body : Bytes} {as : List Action} (h : decode body = .ok as) :
    ∀ a ∈ as, Settled a := by
  intro a ha
  rw [decode_eq_plain] at h
  obtain ⟨source, noSource, named⟩ := Verdicts.comes_of_decodeLines h a ha
  refine ⟨fun kind => ?_, noSource, named⟩
  obtain ⟨s, hs, document, json⟩ := source kind
  obtain ⟨piece, seen⟩ := of_mem_linesFrom hs
  exact ⟨s.content, document, notMem_of_mem_pieces piece, seen, json⟩

/-! ## Encoding again -/

/-- What was decoded of any body has all that its kinds ask for, with documents that are on one
line each and not blank. It is encoded to a body that is decoded to the same actions, and when
these are encoded once more, the body is the same. -/
theorem encode_of_decode {body : Bytes} {as : List Action} (h : decode body = .ok as) :
    (∀ a ∈ as, Settled a) ∧ ∃ again, encode as = .ok again ∧ decode again = .ok as ∧
      (decode again >>= encode) = .ok again := by
  have settled := settled_of_decode h
  obtain ⟨again, encoded, decoded⟩ :=
    decode_encode_of_complete fun a ha => (settled a ha).complete
  have same : as.map Action.carried = as :=
    (List.map_congr_left fun a ha => (settled a ha).carried_eq).trans (List.map_id as)
  rw [same] at decoded
  exact ⟨settled, again, encoded, decoded, by rw [decoded]; exact encoded⟩

/-- A blank line, a put with a field that is not known and an escape in its id, its document behind
another blank line, and a delete whose fields are in an array. -/
def loose : Bytes :=
  word " \n\x7b\"index\" : \x7b\"_id\":\"\\u0061\", \"x\":[1]\x7d\x7d\n\n \x7b\"n\": 1 \x7d\n" ++
    word "\x7b\"delete\":[null,\"b\",3,1]\x7d"

/-- What these lines ask for. The document keeps its white space. -/
def looseActions : List Action :=
  [.put "a" none (word " \x7b\"n\": 1 \x7d"), .delete "b" (some ⟨1, 3⟩)]

theorem encode_of_decode_loose : decode loose = .ok looseActions ∧
    ∃ again, encode looseActions = .ok again ∧ again = word (
        "\x7b\"index\":\x7b\"_id\":\"a\"\x7d\x7d\n \x7b\"n\": 1 \x7d\n" ++
        "\x7b\"delete\":\x7b\"_id\":\"b\",\"if_seq_no\":3,\"if_primary_term\":1\x7d\x7d\n") ∧
      decode again = .ok looseActions ∧ (decode again >>= encode) = .ok again := by
  have read : decode loose = .ok looseActions := by decide +kernel
  obtain ⟨-, again, encoded, decoded, stable⟩ := encode_of_decode read
  refine ⟨read, again, encoded, ?_, decoded, stable⟩
  refine Except.ok.inj (encoded.symm.trans ?_)
  decide +kernel

end VersionedStore.Bulk
