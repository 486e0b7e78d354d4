import VersionedStore.Proofs.Data.Answer
import VersionedStore.Proofs.Data.Pieces
import VersionedStore.Proofs.Json.Equality
import VersionedStore.Store.Query

/-!
# Term queries

A term asks for the documents with a value in a field. The field is the member of that name, or
what its dotted parts lead to through nested objects; where it holds an array, one element must be
the value. The value is written by itself or as the member `value` of an object, and the two forms
are read alike, except that only the first one refuses an array. An array that the second one lets
pass is compared with the elements of a field only, never with the field itself.

## Main definitions

* `Query.Leads`, `Query.At` — what a path leads to, and the value that a document has at a field
* `Query.short`, `Query.long` — the two forms of a term query

## Main results

* `Query.lookup?_eq_some_iff` — the field of a document is found
* `Query.accepts_term_iff` — which documents a term selects
* `Query.forms_agree_iff` — the two forms are read alike, but for arrays
* `Query.long_takes_array` — the second form takes an array that the first one refuses
-/

namespace VersionedStore.Query

open Json

/-! ## Fields -/

/-- From a value, through nested objects, a path of keys leads to a value. -/
inductive Leads : Value → List String → Value → Prop
  | here (v : Value) : Leads v [] v
  | member {object v w : Value} {key : String} {path : List String}
    (found : object.member? key = some v) (rest : Leads v path w) : Leads object (key :: path) w

/-- The parts of a dotted name: put together with dots they give the name, and there is no dot in
any of them. -/
structure PartsOf (field : String) (path : List String) : Prop where
  ne_nil : path ≠ []
  joined : joined '.' (path.map String.toList) = field.toList
  noDots : ∀ part ∈ path, '.' ∉ part.toList

/-- The value that a document has at a field: that of the member of this name, and if there is
none, the value that the dotted parts lead to. -/
inductive At (source : Value) (field : String) : Value → Prop
  | member {v : Value} (found : source.member? field = some v) : At source field v
  | path {v : Value} {path : List String} (none : source.member? field = none)
    (parts : PartsOf field path) (leads : Leads source path v) : At source field v

theorem follow_eq_some_iff {path : List String} {source v : Value} :
    follow path source = some v ↔ Leads source path v := by
  induction path generalizing source with
  | nil =>
    constructor
    · intro h
      obtain rfl := Option.some.inj h
      exact .here _
    · rintro ⟨⟩
      rfl
  | cons key path ih =>
    rw [follow, List.foldlM_cons, Option.bind_eq_bind, Option.bind_eq_some_iff]
    constructor
    · rintro ⟨w, found, rest⟩
      exact .member found (ih.1 rest)
    · rintro (_ | ⟨found, rest⟩)
      exact ⟨_, found, ih.2 rest⟩

theorem partsOf_iff {field : String} {path : List String} :
    PartsOf field path ↔ path = parts field := by
  constructor
  · rintro ⟨ne_nil, together, noDots⟩
    rw [parts, ← together, pieces_joined (by simpa using ne_nil) (by simpa using noDots)]
    simp
  · rintro rfl
    refine ⟨by simpa [parts] using pieces_ne_nil '.' field.toList, ?_, ?_⟩
    · rw [parts, List.map_map]
      simpa [Function.comp_def] using joined_pieces '.' field.toList
    · rw [parts, List.forall_mem_map]
      intro part h
      rw [String.toList_ofList]
      exact notMem_of_mem_pieces h

/-- The field of a document is found. -/
theorem lookup?_eq_some_iff {source v : Value} {field : String} :
    lookup? source field = some v ↔ At source field v := by
  unfold lookup?
  cases found : source.member? field with
  | some w =>
    constructor
    · intro h
      exact .member (found.trans h)
    · rintro (h | ⟨none, -, -⟩)
      · exact found.symm.trans h
      · simp [found] at none
  | none =>
    simp only [follow_eq_some_iff]
    constructor
    · exact .path found (partsOf_iff.2 rfl)
    · rintro (h | ⟨-, together, leads⟩)
      · simp [found] at h
      · rwa [← partsOf_iff.1 together]

/-! ## Selecting -/

/-- What a field holds meets a value that it is equal to, or that an element of it is equal to. An
array is never compared as a whole. -/
theorem meets_iff {v : Value} {held : Option Value} : meets v held = true ↔ ∃ w, held = some w ∧
    ((∀ es, v ≠ .array es) ∧ w.Equal v ∨ ∃ es, w = .array es ∧ ∃ e ∈ es, e.Equal v) := by
  unfold meets
  split
  · simp
  · next es =>
    rw [List.any_eq_true]
    simp only [Value.same_iff]
    constructor
    · intro element
      exact ⟨_, rfl, .inr ⟨es, rfl, element⟩⟩
    · rintro ⟨w, held, ⟨noArray, equal⟩ | ⟨es', rfl, element⟩⟩
      · obtain rfl := Option.some.inj held
        obtain ⟨es', array⟩ := equal.array_iff.1 ⟨es, rfl⟩
        exact absurd array (noArray es')
      · obtain rfl := Value.array.inj (Option.some.inj held)
        exact element
  · next found noArray =>
    rw [Value.same_iff]
    constructor
    · intro equal
      refine ⟨found, rfl, .inl ⟨fun es array => ?_, equal⟩⟩
      obtain ⟨es', held⟩ := equal.array_iff.2 ⟨es, array⟩
      exact noArray es' held
    · rintro ⟨w, held, ⟨-, equal⟩ | ⟨es, rfl, -⟩⟩
      · rwa [Option.some.inj held]
      · exact (noArray es (Option.some.inj held)).elim

/-- A term selects the documents that have its value at its field, or have an array there of which
an element is the value. -/
theorem accepts_term_iff {field id : String} {v source : Value} :
    (term field v).accepts id source = true ↔ ∃ w, At source field w ∧
      ((∀ es, v ≠ .array es) ∧ w.Equal v ∨ ∃ es, w = .array es ∧ ∃ e ∈ es, e.Equal v) := by
  rw [accepts, meets_iff]
  simp only [lookup?_eq_some_iff]

/-! ## The two forms -/

/-- A term whose value stands by itself. -/
def short (field : String) (v : Value) : Value := .object [("term", .object [(field, v)])]

/-- A term whose value is the member of an object. -/
def long (field : String) (v : Value) : Value := short field (.object [("value", v)])

theorem parse_long (field : String) (v : Value) :
    parse (some (long field v)) = .ok (term field v) := rfl

theorem parse_short {field : String} {v : Value} (plain : ∀ ms, v ≠ .object ms)
    (noArray : ∀ es, v ≠ .array es) : parse (some (short field v)) = .ok (term field v) := by
  cases v with
  | object ms => exact absurd rfl (plain ms)
  | array es => exact absurd rfl (noArray es)
  | _ => rfl

theorem parse_short_array (field : String) (es : List Value) :
    parse (some (short field (.array es))) = .error .arrayValue := rfl

/-- Of a value that is no object, the two forms of a term are both accepted, as the same query, or
both refused, just if the value is no array: an array is refused in the first form only. A term
that is accepted selects the documents that have the value at the field, or an array of which an
element is the value; a value that is an array itself is only looked for among the elements. -/
theorem forms_agree_iff (field : String) {v : Value} (plain : ∀ ms, v ≠ .object ms) :
    (((∃ q, parse (some (short field v)) = .ok q ∧ parse (some (long field v)) = .ok q) ∨
        ∃ e e', parse (some (short field v)) = .error e ∧ parse (some (long field v)) = .error e') ↔
      ∀ es, v ≠ .array es) ∧
    (∃ q, parse (some (long field v)) = .ok q) ∧
    ∀ q, parse (some (short field v)) = .ok q ∨ parse (some (long field v)) = .ok q →
      ∀ id source, q.accepts id source = true ↔ ∃ w, At source field w ∧
        ((∀ es, v ≠ .array es) ∧ w.Equal v ∨ ∃ es, w = .array es ∧ ∃ e ∈ es, e.Equal v) := by
  refine ⟨⟨?_, fun noArray => ?_⟩, ⟨_, parse_long field v⟩, fun q accepted id source => ?_⟩
  · rintro agree es rfl
    rw [parse_long, parse_short_array] at agree
    simp at agree
  · exact .inl ⟨_, parse_short plain noArray, parse_long field v⟩
  -- Whatever form was accepted, it is the query for the value in the field.
  · have same : q = term field v := by
      obtain shortly | longly := accepted
      · have noArray : ∀ es, v ≠ .array es := by
          rintro es rfl
          simp [parse_short_array] at shortly
        exact Except.ok.inj (shortly.symm.trans (parse_short plain noArray))
      · exact Except.ok.inj (longly.symm.trans (parse_long field v))
    rw [same, accepts_term_iff]

/-- Two whole numbers. -/
def pair : List Value := [.number (.unsigned 2), .number (.unsigned 1)]

/-- A document that has the pair below its member `a`. -/
def nested : Value := .object [("a", .object [("b", .array pair)])]

/-- It is selected by a term for one of the numbers at the dotted name, in either form. -/
theorem forms_agree_nested :
    let one : Value := .number (.unsigned 1)
    (∀ ms, one ≠ .object ms) ∧ ∃ q, parse (some (short "a.b" one)) = .ok q ∧
      parse (some (long "a.b" one)) = .ok q ∧ q.accepts "1" nested = true := by
  intro one
  have plain : ∀ ms, one ≠ .object ms := by simp [one]
  have parts : PartsOf "a.b" ["a", "b"] := ⟨by decide, by decide, by decide⟩
  have leads : Leads nested ["a", "b"] (.array pair) := .member rfl (.member rfl (.here _))
  have held : At nested "a.b" (.array pair) := .path rfl parts leads
  have element : one ∈ pair := by simp [pair, one]
  obtain ⟨-, -, selects⟩ := forms_agree_iff "a.b" plain
  exact ⟨plain, _, rfl, rfl,
    (selects _ (.inl rfl) "1" nested).2 ⟨_, held, .inr ⟨pair, rfl, one, element, rfl⟩⟩⟩

/-- The second form takes an array for its value. But the first one refuses it, and the document
that has this very array at the field is not selected. -/
theorem long_takes_array :
    let red : Value := .array [.string "red"]
    let source : Value := .object [("tags", red)]
    parse (some (short "tags" red)) = .error .arrayValue ∧
      parse (some (long "tags" red)) = .ok (term "tags" red) ∧
      At source "tags" red ∧ (term "tags" red).accepts "1" source = false := by
  exact ⟨rfl, rfl, .member rfl, by decide +kernel⟩

end VersionedStore.Query
