import VersionedStore.Proofs.Data.Pieces
import VersionedStore.Proofs.Data.Percent
import VersionedStore.Proofs.Data.Table
import VersionedStore.Server.Target

/-!
# Targets that clients build

A client puts percent-encoded segments behind slashes and percent-encoded pairs behind a
question mark. No separator is left in what is encoded, so the server finds the same segments,
but for empty ones, and the same parameters.

## Main definitions

* `Target.pathOf`, `Target.queryOf` — a path and a query in their encodings
* `Target.slashed` — a path whose segments are joined, with its first slash even if it has none

## Main results

* `Target.parse_pathOf`, `Target.parse_pathOf_queryOf` — the server undoes the encodings
* `Target.segments_arrive` — what an encoding is made of, and that segments are found again
-/

namespace VersionedStore.Target

def pathOf (segments : List String) : List Char :=
  segments.flatMap fun s => '/' :: (Percent.encode s).toList

/-- The encoded segments behind a slash, with slashes between them. -/
def slashed (segments : List String) : List Char :=
  '/' :: joined '/' (segments.map fun s => (Percent.encode s).toList)

/-- A parameter with its value. -/
def pairOf (p : String × String) : List Char :=
  (Percent.encode p.1).toList ++ '=' :: (Percent.encode p.2).toList

/-- The query of some parameters. -/
def queryOf (params : List (String × String)) : List Char := joined '&' (params.map pairOf)

variable {segments : List String} {params : List (String × String)}

@[simp] theorem decodeChars_encode (s : String) : decodeChars (Percent.encode s).toList = s := by
  rw [decodeChars, String.ofList_toList, Percent.decode_encode]

/-! ## Paths -/

private theorem slash_notMem_encode {cs : List Char}
    (h : cs ∈ segments.map fun s => (Percent.encode s).toList) : '/' ∉ cs := by
  obtain ⟨s, -, rfl⟩ := List.mem_map.1 h
  exact Percent.notMem_encode (by decide) (by decide)

/-- The segments of a path are those that were joined; empty ones do not count. -/
theorem parseSegments_slashed (segments : List String) :
    parseSegments (slashed segments) = segments.filter (· ≠ "") := by
  cases segments with
  | nil => rfl
  | cons s segments =>
    have cut : pieces '/' (slashed (s :: segments)) =
        [] :: (s :: segments).map fun s => (Percent.encode s).toList := by
      rw [slashed, pieces, if_pos rfl, pieces_joined (by simp) fun _ => slash_notMem_encode]
    have sameTest :
        ((fun cs : List Char => decide (cs ≠ [])) ∘ fun s => (Percent.encode s).toList) =
          fun s => decide (s ≠ "") := by
      funext s
      exact decide_eq_decide.2 (not_congr Percent.encode_eq_nil_iff)
    rw [parseSegments, cut, List.filter_cons_of_neg (by simp), List.filter_map, List.map_map,
      sameTest]
    exact List.map_id'' decodeChars_encode _

private theorem pathOf_eq_slashed (h : segments ≠ []) : pathOf segments = slashed segments := by
  induction segments with
  | nil => contradiction
  | cons s segments ih =>
    cases segments with
    | nil => exact congrArg _ (List.append_nil _)
    | cons t segments =>
      have others := ih (List.cons_ne_nil _ _)
      rw [pathOf] at others
      rw [pathOf, List.flatMap_cons, others]
      rfl

/-- The segments of a path are those that it was made of; empty ones do not count. -/
theorem parseSegments_pathOf (segments : List String) :
    parseSegments (pathOf segments) = segments.filter (· ≠ "") := by
  cases segments with
  | nil => rfl
  | cons s segments =>
    rw [pathOf_eq_slashed (List.cons_ne_nil _ _), parseSegments_slashed]

private theorem question_notMem_pathOf (segments : List String) : '?' ∉ pathOf segments := by
  intro h
  obtain ⟨s, -, hs⟩ := List.mem_flatMap.1 h
  rw [List.mem_cons] at hs
  obtain hs | hs := hs
  · exact absurd hs (by decide)
  · exact Percent.notMem_encode (by decide) (by decide) hs

/-! ## Parameters -/

/-- The parameters of a query are those that it was made of. -/
theorem parseParams_queryOf (h : params ≠ []) : parseParams (queryOf params) = .ofList params := by
  have clean : ∀ p ∈ params.map pairOf, '&' ∉ p := by
    intro cs hcs
    obtain ⟨p, -, rfl⟩ := List.mem_map.1 hcs
    rw [pairOf, List.mem_append, List.mem_cons]
    rintro (h | h | h)
    · exact Percent.notMem_encode (by decide) (by decide) h
    · exact absurd h (by decide)
    · exact Percent.notMem_encode (by decide) (by decide) h
  have parsed : ∀ p, parsePair (pairOf p) = p := by
    intro p
    rw [parsePair, pairOf, cut?_append (Percent.notMem_encode (by decide) (by decide))]
    simp only [decodeChars_encode]
  have full : (params.map pairOf).filter (· ≠ []) = params.map pairOf := by
    rw [List.filter_eq_self]
    intro cs hcs
    obtain ⟨p, -, rfl⟩ := List.mem_map.1 hcs
    simp [pairOf]
  rw [parseParams, queryOf, pieces_joined (by simpa using h) clean, full, List.map_map]
  exact congrArg _ (List.map_id'' parsed _)

/-! ## Targets -/

/-- The target of a path without parameters. -/
theorem parse_pathOf (segments : List String) :
    parse (String.ofList (pathOf segments)) =
      ⟨String.ofList (pathOf segments), segments.filter (· ≠ ""), .empty⟩ := by
  rw [parse, String.toList_ofList, cut?_eq_none (question_notMem_pathOf segments)]
  simp only [Option.getD_none, parseSegments_pathOf]
  rfl

/-- The target of a path with parameters. -/
theorem parse_pathOf_queryOf (segments : List String) (h : params ≠ []) :
    parse (String.ofList (pathOf segments ++ '?' :: queryOf params)) =
      ⟨String.ofList (pathOf segments), segments.filter (· ≠ ""), .ofList params⟩ := by
  rw [parse, String.toList_ofList, cut?_append (question_notMem_pathOf segments)]
  simp only [Option.getD_some, parseSegments_pathOf, parseParams_queryOf h]

private theorem parse_slashed (segments : List String) :
    parse (String.ofList (slashed segments)) =
      ⟨String.ofList (slashed segments), segments.filter (· ≠ ""), .empty⟩ := by
  cases segments with
  | nil =>
    rw [parse, String.toList_ofList]
    rfl
  | cons s segments => rw [← pathOf_eq_slashed (List.cons_ne_nil _ _), parse_pathOf]

/-- Segments arrive as they were sent. An encoding has letters, digits and five marks in it, and so
no separator; each of its percent signs has two digits behind it, and the octets that it is decoded
to are well formed, so no sign is taken for itself and no octet is replaced. Where segments that are
not empty are joined by slashes, behind a first one, cutting the path and decoding its pieces gives
the segments. -/
theorem segments_arrive :
    (∀ s : String,
      (∀ c ∈ (Percent.encode s).toList,
        c.isAlphanum = true ∨ c ∈ ['-', '_', '.', '~', '%']) ∧
      (∀ c ∈ ['/', '?', '&', '=', '+', ':'], c ∉ (Percent.encode s).toList) ∧
      (∀ before after, (Percent.encode s).toList = before ++ '%' :: after →
        ∃ high low rest, after = Hexadecimal.upper high :: Hexadecimal.upper low :: rest) ∧
      Utf8.decode? (Percent.decodeOctets (Utf8.encode (Percent.encode s))) = some s ∧
      Percent.decode (Percent.encode s) = s) ∧
    ∀ segments : List String, (∀ s ∈ segments, s ≠ "") →
      ((pieces '/' (slashed segments)).filter (· ≠ [])).map
        (fun piece => Percent.decode (String.ofList piece)) = segments ∧
      parse (String.ofList (slashed segments)) =
        ⟨String.ofList (slashed segments), segments, .empty⟩ := by
  constructor
  · intro s
    refine ⟨fun c => Percent.mem_encode, ?_, fun _ _ => Percent.digits_of_percent, ?_,
      Percent.decode_encode s⟩
    · intro c separator
      simp only [List.mem_cons, List.not_mem_nil, or_false] at separator
      obtain rfl | rfl | rfl | rfl | rfl | rfl := separator
      all_goals exact Percent.notMem_encode (by decide) (by decide)
    · rw [Percent.decodeOctets_encode, Utf8.decode?_encode]
  · intro segments full
    have kept : segments.filter (· ≠ "") = segments :=
      List.filter_eq_self.2 fun s hs => decide_eq_true (full s hs)
    have found : parseSegments (slashed segments) = segments := by
      rw [parseSegments_slashed, kept]
    exact ⟨found, by rw [parse_slashed, kept]⟩

/-- Separators, signs that mean something in an encoding, and characters of several octets. -/
theorem segments_arrive_signs :
    (∀ s ∈ ["a/b c", "100%", "é+𝄞"], s ≠ "") ∧
      slashed ["a/b c", "100%", "é+𝄞"] =
        "/a%2Fb%20c/100%25/%C3%A9%2B%F0%9D%84%9E".toList ∧
      (parse "/a%2Fb%20c/100%25/%C3%A9%2B%F0%9D%84%9E").segments =
        ["a/b c", "100%", "é+𝄞"] := by
  have full : ∀ s ∈ ["a/b c", "100%", "é+𝄞"], s ≠ "" := by decide
  have path : slashed ["a/b c", "100%", "é+𝄞"] =
      "/a%2Fb%20c/100%25/%C3%A9%2B%F0%9D%84%9E".toList := by decide +kernel
  obtain ⟨-, target⟩ := segments_arrive.2 _ full
  rw [path, String.ofList_toList] at target
  exact ⟨full, path, congrArg Target.segments target⟩

end VersionedStore.Target
