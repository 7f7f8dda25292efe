/-
  The grammar of namespaces.

  1. **Rules** — a namespace is one or more parts with points between them, and a part is a name of
     ASCII characters, behind an `@` if it is a reserved word.  The check accepts exactly what these
     rules make (**`isValid_iff`**).
  2. **Blanks** — the namespace of an assembly is made of the trimmed pieces of its name, so it does
     not depend on the blanks around the name (`ofAssembly_strip`).
-/

import RouteIndex.Proofs.Namespace

namespace RouteIndex.Namespace

variable {cs : List Char}

/-! ## Rules -/

/-- A letter or an underscore, then letters, digits and underscores, all of them ASCII. -/
inductive IsName : List Char → Prop where
  | mk {c : Char} {cs : List Char} (hfirst : c.isAlpha = true ∨ c = '_')
      (hrest : ∀ d ∈ cs, d.isAlphanum = true ∨ d = '_') : IsName (c :: cs)

/-- A name that is no reserved word, or any name behind an `@`. -/
inductive IsPart : List Char → Prop where
  | plain {name : List Char} (hname : IsName name)
      (hreserved : String.ofList name ∉ reservedWords) : IsPart name
  | verbatim {name : List Char} (hname : IsName name) : IsPart ('@' :: name)

/-- One or more parts with points between them. -/
inductive IsDotted : String → Prop where
  | mk {parts : List (List Char)} (hne : parts ≠ []) (hparts : ∀ p ∈ parts, IsPart p) :
      IsDotted (String.ofList (['.'].intercalate parts))

/-- The check looks at the first character and then at the others, as the rule says. -/
theorem isIdentifier_iff_isName : isIdentifier cs = true ↔ IsName cs := by
  cases cs with
  | nil => exact iff_of_false nofun nofun
  | cons c cs =>
    simp only [isIdentifier, isIdentifierChar, Bool.and_eq_true, Bool.or_eq_true, decide_eq_true_eq,
      List.all_eq_true]
    constructor
    · rintro ⟨hfirst, hrest⟩
      exact .mk hfirst hrest
    · rintro ⟨hfirst, hrest⟩
      exact ⟨hfirst, hrest⟩

/-- Whether a part is a reserved word is a look-up among them. -/
theorem isReserved_iff : isReserved cs = true ↔ String.ofList cs ∈ reservedWords := by
  simp only [isReserved, List.any_eq_true, decide_eq_true_eq]
  constructor
  · rintro ⟨word, hword, rfl⟩
    rwa [String.ofList_toList]
  · intro h
    exact ⟨String.ofList cs, h, String.toList_ofList⟩

/-- A part without an `@` must be no reserved word; behind an `@` every name will do. -/
theorem isSegment_iff_isPart : isSegment cs = true ↔ IsPart cs := by
  by_cases hat : ∃ name, cs = '@' :: name
  · obtain ⟨name, rfl⟩ := hat
    show isIdentifier name = true ↔ _
    rw [isIdentifier_iff_isName]
    constructor
    · exact .verbatim
    · intro h
      cases h with
      | verbatim hname => exact hname
      | plain hname _ =>
        -- no name begins with an `@`
        exact absurd (isIdentifier_iff_isName.mpr hname) (by simp [isIdentifier])
  · rw [isSegment.eq_2 cs fun name h => hat ⟨name, h⟩, Bool.and_eq_true, Bool.not_eq_true',
      ← Bool.not_eq_true, isReserved_iff, isIdentifier_iff_isName]
    constructor
    · rintro ⟨hname, hreserved⟩
      exact .plain hname hreserved
    · intro h
      cases h with
      | plain hname hreserved => exact ⟨hname, hreserved⟩
      | verbatim _ => exact absurd ⟨_, rfl⟩ hat

/-- **The check accepts the namespaces of the grammar**, and nothing else.  It cuts at the points
and looks at each piece; the grammar joins parts with points, and cutting undoes this. -/
theorem isValid_iff {s : String} : isValid s = true ↔ IsDotted s := by
  have hparts (ps : List (List Char)) : (∀ p ∈ ps, isSegment p = true) ↔ ∀ p ∈ ps, IsPart p :=
    forall₂_congr fun _ _ => isSegment_iff_isPart
  rw [isValid, List.all_eq_true, hparts]
  constructor
  · intro h
    have hdotted := IsDotted.mk (Text.pieces_ne_nil '.' s.toList) h
    rwa [Text.intercalate_pieces, String.ofList_toList] at hdotted
  · rintro ⟨hne, h⟩
    rw [String.toList_ofList, Text.pieces_intercalate hne fun p hp =>
      dot_not_mem_of_isSegment (isSegment_iff_isPart.mpr (h p hp))]
    exact h

/-! ## Blanks around a name -/

/-- The segment that is made of a trimmed piece. -/
def segmentOfTrimmed (t : List Char) : List Char :=
  if isReserved (identifierOf t) then '@' :: identifierOf t else identifierOf t

/-- The segments are made of the trimmed pieces that are not empty.  In this form they only depend
on the trimmed pieces. -/
theorem segmentsOf_eq (assembly : String) : segmentsOf assembly =
    (((Text.pieces '.' assembly.toList).map Text.trim).filter (!·.isEmpty)).map segmentOfTrimmed := by
  simp only [segmentsOf, ← Text.isEmpty_trim]
  rw [List.filter_map, List.map_map]
  rfl

/-- **The namespace of an assembly does not depend on the blanks around its name**, for these belong
to the first and the last piece, which are trimmed anyway. -/
theorem ofAssembly_strip (assembly : String) : ofAssembly (Text.strip assembly) = ofAssembly assembly := by
  have hsegments : segmentsOf (Text.strip assembly) = segmentsOf assembly := by
    rw [segmentsOf_eq, segmentsOf_eq, Text.strip, String.toList_ofList,
      Text.map_trim_pieces_trim rfl]
  rw [ofAssembly, ofAssembly, hsegments]

end RouteIndex.Namespace
