/-
  The namespace that an assembly gets by default.

  1. **Identifiers** — an identifier is a text of identifier characters that does not begin with a
     digit (`isIdentifier_iff`).  `identifierOf` makes one of every text that is not empty
     (`isIdentifier_identifierOf`) and leaves identifiers alone (`identifierOf_eq_self`).
  2. **Segments** — `segmentOf` makes a segment of every text that is not blank
     (`isSegment_segmentOf`), and the texts it leaves alone are the segments without an `@`
     (`segmentOf_eq_self_iff`): an `@` that was there becomes an underscore, and no reserved word
     begins with one, so the `@` does not come back.
  3. **The whole** — no segment has a point, so the namespace is cut into the segments that it was made
     of.  It is valid for every name, and it is the name itself exactly if that is a valid namespace
     without an `@` (**`ofAssembly_valid_and_exact`**).
-/

import RouteIndex.Proofs.Settings
import RouteIndex.Proofs.Text.Pieces

namespace RouteIndex.Namespace

variable {cs : List Char}

/-! ## Identifiers -/

/-- No character of an identifier is blank, so identifiers are never trimmed. -/
theorem isBlank_of_isIdentifierChar {c : Char} (h : isIdentifierChar c = true) :
    Text.isBlank c = false := by
  rw [isIdentifierChar, Bool.or_eq_true, decide_eq_true_eq] at h
  cases h with
  | inl h => exact Text.isBlank_of_isAlphanum h
  | inr h =>
    rw [h]
    rfl

/-- No letter is a digit. -/
theorem not_isDigit_of_isAlpha {c : Char} (h : c.isAlpha = true) : c.isDigit = false := by
  have hletter := Text.toNat_of_isAlpha h
  rw [← Bool.not_eq_true, Char.isDigit_iff_toNat]
  show ¬ (48 ≤ c.toNat ∧ c.toNat ≤ 57)
  omega

/-- An identifier is made of identifier characters, and the first one is no digit.  The check asks
the same of the first character and of the others apart. -/
theorem isIdentifier_iff : isIdentifier cs = true ↔
    (∀ c ∈ cs, isIdentifierChar c = true) ∧ ∃ c, cs.head? = some c ∧ c.isDigit = false := by
  cases cs with
  | nil =>
    refine ⟨fun h => absurd h Bool.false_ne_true, ?_⟩
    rintro ⟨-, c, hc, -⟩
    cases hc
  | cons c cs =>
    -- A letter or an underscore is a character of an identifier that is no digit.
    have hstart : (c.isAlpha || c = '_') = true ↔
        isIdentifierChar c = true ∧ c.isDigit = false := by
      rw [isIdentifierChar, Char.isAlphanum, Bool.or_assoc, Bool.or_eq_true, Bool.or_eq_true,
        Bool.or_eq_true, decide_eq_true_eq]
      constructor
      · rintro (h | rfl)
        · exact ⟨Or.inl h, not_isDigit_of_isAlpha h⟩
        · exact ⟨Or.inr (Or.inr rfl), rfl⟩
      · rintro ⟨h | h | h, hdigit⟩
        · exact Or.inl h
        · exact absurd (h.symm.trans hdigit) Bool.noConfusion
        · exact Or.inr h
    rw [isIdentifier, Bool.and_eq_true, hstart, List.all_eq_true, List.forall_mem_cons]
    constructor
    · rintro ⟨⟨hc, hdigit⟩, hcs⟩
      exact ⟨⟨hc, hcs⟩, c, rfl, hdigit⟩
    · rintro ⟨⟨hc, hcs⟩, d, hd, hdigit⟩
      cases hd
      exact ⟨⟨hc, hdigit⟩, hcs⟩

/-- A text that is not empty becomes an identifier: other characters become underscores, and a digit
in front gets one before it. -/
theorem isIdentifier_identifierOf (h : cs ≠ []) : isIdentifier (identifierOf cs) = true := by
  have hcleaned : ∀ c ∈ cs.map fun c => if isIdentifierChar c then c else '_',
      isIdentifierChar c = true := by
    intro c hc
    obtain ⟨d, -, rfl⟩ := List.mem_map.mp hc
    by_cases hd : isIdentifierChar d = true
    · rwa [if_pos hd]
    · rw [if_neg hd]
      rfl
  rw [isIdentifier_iff, identifierOf]
  cases hlist : cs.map fun c => if isIdentifierChar c then c else '_' with
  | nil => exact absurd (List.map_eq_nil_iff.mp hlist) h
  | cons c rest =>
    rw [hlist] at hcleaned
    -- Every character is one of an identifier by now; a digit in front gets an underscore.
    by_cases hdigit : c.isDigit = true
    · simp only [if_pos hdigit]
      exact ⟨List.forall_mem_cons.mpr ⟨rfl, hcleaned⟩, '_', rfl, rfl⟩
    · simp only [if_neg hdigit]
      exact ⟨hcleaned, c, rfl, Bool.eq_false_iff.mpr hdigit⟩

/-- An identifier is left alone. -/
theorem identifierOf_eq_self (h : isIdentifier cs = true) : identifierOf cs = cs := by
  obtain ⟨hchars, c, hhead, hdigit⟩ := isIdentifier_iff.mp h
  have hmap : (cs.map fun c => if isIdentifierChar c then c else '_') = cs := by
    conv => rhs; rw [← List.map_id cs]
    exact List.map_congr_left fun c hc => if_pos (hchars c hc)
  obtain ⟨rest, rfl⟩ := List.head?_eq_some_iff.mp hhead
  rw [identifierOf, hmap]
  exact if_neg (Bool.eq_false_iff.mp hdigit)

/-! ## Segments -/

/-- An identifier has no `@`. -/
theorem at_not_mem_of_isIdentifier (h : isIdentifier cs = true) : '@' ∉ cs := by
  intro hmem
  exact absurd ((isIdentifier_iff.mp h).1 '@' hmem) (by decide)

/-- Without an `@`, a segment is an identifier that is not reserved.  With one, it is any identifier
behind it. -/
theorem isSegment_iff_of_not_mem (h : '@' ∉ cs) :
    isSegment cs = true ↔ isIdentifier cs = true ∧ isReserved cs = false := by
  have hat (rest : List Char) : cs ≠ '@' :: rest := by
    rintro rfl
    exact h List.mem_cons_self
  rw [isSegment.eq_2 cs hat, Bool.and_eq_true, Bool.not_eq_true']

/-- The characters of a segment; there is at least one. -/
theorem chars_of_isSegment (h : isSegment cs = true) :
    cs ≠ [] ∧ ∀ c ∈ cs, c = '@' ∨ isIdentifierChar c = true := by
  by_cases hat : ∃ rest, cs = '@' :: rest
  · obtain ⟨rest, rfl⟩ := hat
    have hrest : isIdentifier rest = true := h
    refine ⟨List.cons_ne_nil _ _, List.forall_mem_cons.mpr ⟨Or.inl rfl, fun c hc => ?_⟩⟩
    exact Or.inr ((isIdentifier_iff.mp hrest).1 c hc)
  · rw [isSegment.eq_2 cs fun rest hrest => hat ⟨rest, hrest⟩, Bool.and_eq_true] at h
    obtain ⟨hchars, c, hhead, -⟩ := isIdentifier_iff.mp h.1
    refine ⟨?_, fun c hc => Or.inr (hchars c hc)⟩
    rintro rfl
    cases hhead

/-- No segment has a point. -/
theorem dot_not_mem_of_isSegment (h : isSegment cs = true) : '.' ∉ cs := by
  intro hmem
  exact absurd ((chars_of_isSegment h).2 '.' hmem) (by decide)

/-- A segment has no blanks, not even inside. -/
theorem isBlank_of_mem_segment (h : isSegment cs = true) : ∀ c ∈ cs, Text.isBlank c = false := by
  intro c hc
  cases (chars_of_isSegment h).2 c hc with
  | inl hat =>
    rw [hat]
    rfl
  | inr hchar => exact isBlank_of_isIdentifierChar hchar

/-- So it is not blank, and it is not left out where blank pieces are. -/
theorem isBlankText_of_isSegment (h : isSegment cs = true) : Text.isBlankText cs = false := by
  have hself := Text.trim_eq_self (isBlank_of_mem_segment h)
  rw [← Bool.not_eq_true, ← Text.trim_eq_nil_iff, hself]
  exact (chars_of_isSegment h).1

/-! ### Made of any text -/

/-- What is left of a text that is not blank becomes an identifier. -/
theorem isIdentifier_identifierOf_trim (h : Text.isBlankText cs = false) :
    isIdentifier (identifierOf (Text.trim cs)) = true := by
  refine isIdentifier_identifierOf fun hnil => ?_
  rw [Text.trim_eq_nil_iff, h] at hnil
  exact Bool.false_ne_true hnil

/-- A text that is not blank becomes a segment.  A reserved word gets an `@`; everything else
becomes an identifier. -/
theorem isSegment_segmentOf (h : Text.isBlankText cs = false) : isSegment (segmentOf cs) = true := by
  have hidentifier := isIdentifier_identifierOf_trim h
  rw [segmentOf]
  by_cases hreserved : isReserved (identifierOf (Text.trim cs)) = true
  · simp only [if_pos hreserved]
    exact hidentifier
  · simp only [if_neg hreserved]
    exact (isSegment_iff_of_not_mem (at_not_mem_of_isIdentifier hidentifier)).mpr
      ⟨hidentifier, Bool.eq_false_iff.mpr hreserved⟩

/-- No reserved word begins with an underscore; so what had an `@` before does not get it back. -/
theorem isReserved_underscore (cs : List Char) : isReserved ('_' :: cs) = false := by
  have hwords : ∀ word ∈ reservedWords, word.toList.head? ≠ some '_' := by decide
  rw [isReserved, List.any_eq_false]
  intro word hword heq
  rw [decide_eq_true_eq] at heq
  exact hwords word hword (congrArg List.head? heq)

/-- **The texts that are left alone are the segments without an `@`.** One direction is the making
of segments; for the other, whatever the making changes was no segment, or had an `@`. -/
theorem segmentOf_eq_self_iff (h : Text.isBlankText cs = false) :
    segmentOf cs = cs ↔ isSegment cs = true ∧ '@' ∉ cs := by
  constructor
  · intro hself
    have hsegment : isSegment cs = true := hself ▸ isSegment_segmentOf h
    have hidentifier := isIdentifier_identifierOf_trim h
    refine ⟨hsegment, ?_⟩
    rw [segmentOf] at hself
    rw [Text.trim_eq_self (isBlank_of_mem_segment hsegment)] at hself hidentifier
    by_cases hreserved : isReserved (identifierOf cs) = true
    · -- then the text begins with an `@`, which has become an underscore
      simp only [if_pos hreserved] at hself
      rw [← hself] at hreserved
      exact absurd ((isReserved_underscore _).symm.trans hreserved) Bool.false_ne_true
    · simp only [if_neg hreserved] at hself
      rw [← hself]
      exact at_not_mem_of_isIdentifier hidentifier
  · rintro ⟨hsegment, hat⟩
    obtain ⟨hidentifier, hreserved⟩ := (isSegment_iff_of_not_mem hat).mp hsegment
    rw [segmentOf, Text.trim_eq_self (isBlank_of_mem_segment hsegment),
      identifierOf_eq_self hidentifier]
    exact if_neg (Bool.eq_false_iff.mp hreserved)

/-! ## The namespace of an assembly -/

variable (assembly : String)

/-- Every segment of a namespace is one, for blank pieces are left out. -/
theorem isSegment_of_mem_segmentsOf {p : List Char} (h : p ∈ segmentsOf assembly) :
    isSegment p = true := by
  obtain ⟨q, hq, rfl⟩ := List.mem_map.mp h
  have hblank := (List.mem_filter.mp hq).2
  rw [Bool.not_eq_true'] at hblank
  exact isSegment_segmentOf hblank

/-- If some piece is not blank, the namespace is the segments with points between them. -/
theorem ofAssembly_of_ne_nil (h : segmentsOf assembly ≠ []) :
    ofAssembly assembly = String.ofList (['.'].intercalate (segmentsOf assembly)) :=
  if_neg (by rwa [List.isEmpty_iff])

/-- The namespace is cut into the segments that it was made of, since no segment has a point. -/
theorem pieces_ofAssembly (h : segmentsOf assembly ≠ []) :
    Text.pieces '.' (ofAssembly assembly).toList = segmentsOf assembly := by
  rw [ofAssembly_of_ne_nil assembly h, String.toList_ofList]
  exact Text.pieces_intercalate h fun p hp =>
    dot_not_mem_of_isSegment (isSegment_of_mem_segmentsOf assembly hp)

/-- **The namespace of an assembly is valid.** If all pieces are blank it is the one that is given
by default. -/
theorem isValid_ofAssembly : isValid (ofAssembly assembly) = true := by
  by_cases h : segmentsOf assembly = []
  · rw [ofAssembly, h]
    decide
  · rw [isValid, pieces_ofAssembly assembly h, List.all_eq_true]
    exact fun p hp => isSegment_of_mem_segmentsOf assembly hp

/-- If the segments are the pieces of the name, then each piece is left alone: a blank one would be
missing. -/
theorem segmentOf_eq_self_of_segmentsOf_eq
    (h : segmentsOf assembly = Text.pieces '.' assembly.toList) :
    ∀ p ∈ Text.pieces '.' assembly.toList, Text.isBlankText p = false ∧ segmentOf p = p := by
  have hkept := congrArg List.length h
  rw [segmentsOf, List.length_map, List.length_filter_eq_length_iff] at hkept
  rw [segmentsOf, List.filter_eq_self.mpr hkept] at h
  intro p hp
  refine ⟨(Bool.not_eq_true' _).mp (hkept p hp), ?_⟩
  exact List.map_inj_left.mp (h.trans (List.map_id _).symm) p hp

/-- If each piece is left alone, the segments are the pieces. -/
theorem segmentsOf_eq_of_segmentOf_eq_self
    (h : ∀ p ∈ Text.pieces '.' assembly.toList, Text.isBlankText p = false ∧ segmentOf p = p) :
    segmentsOf assembly = Text.pieces '.' assembly.toList := by
  have hkept : ∀ p ∈ Text.pieces '.' assembly.toList, (!Text.isBlankText p) = true := fun p hp =>
    (Bool.not_eq_true' _).mpr (h p hp).1
  rw [segmentsOf, List.filter_eq_self.mpr hkept]
  conv => rhs; rw [← List.map_id (Text.pieces '.' assembly.toList)]
  exact List.map_congr_left fun p hp => (h p hp).2

/-- An `@` in a name is in one of its pieces. -/
theorem at_not_mem_iff : '@' ∉ assembly.toList ↔
    ∀ p ∈ Text.pieces '.' assembly.toList, '@' ∉ p := by
  have hsep : '@' ≠ '.' := by decide
  rw [Text.mem_iff_exists_pieces hsep]
  simp

/-- The names that are their own namespace: joined and cut, the segments must be the pieces of the
name, which are then left alone one by one. -/
theorem ofAssembly_eq_self_iff :
    ofAssembly assembly = assembly ↔ isValid assembly = true ∧ '@' ∉ assembly.toList := by
  rw [at_not_mem_iff, isValid, List.all_eq_true]
  constructor
  · intro hself
    by_cases h : segmentsOf assembly = []
    · -- the name is the one that stands in for names without a segment, and that one has a segment
      rw [ofAssembly, h] at hself
      rw [← hself]
      decide
    · have hpieces := pieces_ofAssembly assembly h
      rw [hself] at hpieces
      have hleft := segmentOf_eq_self_of_segmentsOf_eq assembly hpieces.symm
      refine ⟨fun p hp => ?_, fun p hp => ?_⟩
      · exact ((segmentOf_eq_self_iff (hleft p hp).1).mp (hleft p hp).2).1
      · exact ((segmentOf_eq_self_iff (hleft p hp).1).mp (hleft p hp).2).2
  · rintro ⟨hsegments, hat⟩
    -- no piece is dropped and none is changed, so joining them gives the name again
    have hpieces : segmentsOf assembly = Text.pieces '.' assembly.toList := by
      refine segmentsOf_eq_of_segmentOf_eq_self assembly fun p hp => ?_
      have hblank := isBlankText_of_isSegment (hsegments p hp)
      exact ⟨hblank, (segmentOf_eq_self_iff hblank).mpr ⟨hsegments p hp, hat p hp⟩⟩
    have hne : segmentsOf assembly ≠ [] := by
      rw [hpieces]
      exact Text.pieces_ne_nil '.' assembly.toList
    rw [ofAssembly_of_ne_nil assembly hne, hpieces, Text.intercalate_pieces, String.ofList_toList]

/-! ## The settings of an assembly -/

/-- Since its namespace is valid, the settings of an assembly need a name and nothing else. -/
theorem validate_ofAssembly_eq_ok_iff : (Settings.ofAssembly assembly).validate = .ok () ↔
    ∃ c ∈ assembly.toList, Text.isBlank c = false := by
  rw [Settings.validate_eq_ok_iff]
  exact and_iff_left (isValid_ofAssembly assembly)

/-- **The default namespace is valid for every name, and leaves alone what needs no change.**  The
settings of an assembly are therefore accepted exactly if its name has a character that is not blank,
and the missing name is the only reason for refusing them; the namespace is the name itself exactly
if the name is a valid namespace without an `@`. -/
theorem ofAssembly_valid_and_exact :
    isValid (ofAssembly assembly) = true ∧
      ((Settings.ofAssembly assembly).validate = .ok () ↔
        ∃ c ∈ assembly.toList, Text.isBlank c = false) ∧
      (∀ e, (Settings.ofAssembly assembly).validate = .error e → e = .missingAssemblyName) ∧
      (ofAssembly assembly = assembly ↔ isValid assembly = true ∧ '@' ∉ assembly.toList) :=
  ⟨isValid_ofAssembly assembly, validate_ofAssembly_eq_ok_iff assembly,
    fun _ h => Settings.eq_missing_of_validate_eq_error h (isValid_ofAssembly assembly),
    ofAssembly_eq_self_iff assembly⟩

end RouteIndex.Namespace
