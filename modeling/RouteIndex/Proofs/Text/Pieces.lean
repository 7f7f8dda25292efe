/-
  Cutting a text at a separator, and joining the pieces.

  The two undo each other: pieces that are joined by the separator give the text back
  (`intercalate_pieces`), and texts without it are found again between its places
  (`pieces_intercalate`).  Both are inductions over what stands in front of the first separator,
  which is also where a text is cut in two (`cut?_eq_some_iff`).
-/

import RouteIndex.Proofs.Text.Blank

namespace RouteIndex.Text

variable {sep : Char}

/-! ## Cutting in two -/

/-- A text without the separator is not cut. -/
theorem cut?_eq_none_iff {cs : List Char} : cut? sep cs = none ↔ sep ∉ cs := by
  induction cs with
  | nil => exact iff_of_true rfl List.not_mem_nil
  | cons c cs ih =>
    rw [cut?, List.mem_cons]
    by_cases hc : c = sep
    · rw [if_pos hc]
      exact iff_of_false nofun fun h => h (Or.inl hc.symm)
    · rw [if_neg hc, Option.map_eq_none_iff, ih, not_or]
      exact (and_iff_right fun h => hc h.symm).symm

/-- **A text is cut in two at its first separator.** What stands in front of it has none, and that
determines where it is. -/
theorem cut?_eq_some_iff {cs before after : List Char} :
    cut? sep cs = some (before, after) ↔ cs = before ++ sep :: after ∧ sep ∉ before := by
  induction cs generalizing before with
  | nil => exact iff_of_false nofun fun h => List.cons_ne_nil _ _ (List.append_eq_nil_iff.mp h.1.symm).2
  | cons c cs ih =>
    rw [cut?]
    by_cases hc : c = sep
    · rw [if_pos hc]
      constructor
      · intro h
        obtain ⟨rfl, rfl⟩ := Prod.mk.inj (Option.some.inj h)
        exact ⟨by rw [hc, List.nil_append], List.not_mem_nil⟩
      · rintro ⟨hcs, hbefore⟩
        cases before with
        | nil => rw [(List.cons.inj hcs).2]
        | cons b before =>
          -- then the separator would stand in front of itself
          exact absurd (hc ▸ (List.cons.inj hcs).1 ▸ List.mem_cons_self) hbefore
    · rw [if_neg hc, Option.map_eq_some_iff]
      constructor
      · rintro ⟨⟨b, a⟩, h, hcut⟩
        obtain ⟨rfl, rfl⟩ := Prod.mk.inj hcut
        obtain ⟨rfl, hb⟩ := ih.mp h
        exact ⟨rfl, List.not_mem_cons_of_ne_of_not_mem (fun h => hc h.symm) hb⟩
      · rintro ⟨hcs, hbefore⟩
        cases before with
        | nil => exact absurd (List.cons.inj hcs).1 hc
        | cons b before =>
          obtain ⟨rfl, htail⟩ := List.cons.inj hcs
          exact ⟨_, ih.mpr ⟨htail, fun h => hbefore (List.mem_cons_of_mem c h)⟩, rfl⟩

/-! ## Cutting -/

/-- There is always a piece, even if it is empty. -/
theorem pieces_ne_nil (sep : Char) (cs : List Char) : pieces sep cs ≠ [] := by
  cases cs with
  | nil => exact List.cons_ne_nil _ _
  | cons c cs =>
    rw [pieces]
    split
    · exact List.cons_ne_nil _ _
    · split <;> exact List.cons_ne_nil _ _

/-- A character that is no separator goes to the first piece. -/
theorem pieces_cons_of_ne {c : Char} (h : c ≠ sep) (cs : List Char) :
    ∃ p ps, pieces sep cs = p :: ps ∧ pieces sep (c :: cs) = (c :: p) :: ps := by
  obtain ⟨p, ps, hps⟩ := List.exists_cons_of_ne_nil (pieces_ne_nil sep cs)
  refine ⟨p, ps, hps, ?_⟩
  rw [pieces, if_neg h, hps]

/-- The pieces of two texts with a separator between them are the pieces of each.  The induction is
over the first text. -/
theorem pieces_append_sep (sep : Char) (cs ds : List Char) :
    pieces sep (cs ++ sep :: ds) = pieces sep cs ++ pieces sep ds := by
  induction cs with
  | nil =>
    show (if sep = sep then _ else _) = _
    rw [if_pos rfl]
    rfl
  | cons c cs ih =>
    rw [List.cons_append, pieces, pieces, ih]
    split
    · rfl
    · obtain ⟨p, ps, hps⟩ := List.exists_cons_of_ne_nil (pieces_ne_nil sep cs)
      rw [hps, List.cons_append]
      rfl

/-- A text without a separator is one piece. -/
theorem pieces_of_not_mem {cs : List Char} (h : sep ∉ cs) : pieces sep cs = [cs] := by
  induction cs with
  | nil => rfl
  | cons c cs ih =>
    have hc : c ≠ sep := fun hc => h (hc ▸ List.mem_cons_self)
    rw [pieces, if_neg hc, ih fun hmem => h (List.mem_cons_of_mem c hmem)]

/-- What stands in front of the first separator is the first piece. -/
theorem pieces_append_cons {cs : List Char} (h : sep ∉ cs) (rest : List Char) :
    pieces sep (cs ++ sep :: rest) = cs :: pieces sep rest := by
  rw [pieces_append_sep, pieces_of_not_mem h, List.singleton_append]

/-- The characters of the pieces are those of the text other than the separator. -/
theorem mem_iff_exists_pieces {c : Char} (hsep : c ≠ sep) {cs : List Char} :
    c ∈ cs ↔ ∃ p ∈ pieces sep cs, c ∈ p := by
  induction cs with
  | nil => simp [pieces]
  | cons d cs ih =>
    by_cases hd : d = sep
    · -- the separator itself goes to no piece
      have hcd : c ≠ d := fun h => hsep (h.trans hd)
      rw [pieces, if_pos hd, List.mem_cons, or_iff_right hcd, ih]
      simp
    · obtain ⟨p, ps, hps, hcons⟩ := pieces_cons_of_ne hd cs
      rw [hps] at ih
      rw [hcons, List.mem_cons, ih]
      simp [or_assoc]

/-- A character at the end that is no separator goes to the last piece. -/
theorem pieces_concat {c : Char} (hc : c ≠ sep) (cs : List Char) :
    ∃ ps p, pieces sep cs = ps ++ [p] ∧ pieces sep (cs ++ [c]) = ps ++ [p ++ [c]] := by
  induction cs with
  | nil =>
    refine ⟨[], [], rfl, ?_⟩
    rw [List.nil_append, pieces, if_neg hc]
    rfl
  | cons d cs ih =>
    obtain ⟨ps, p, hps, hconcat⟩ := ih
    rw [List.cons_append, pieces, pieces, hps, hconcat]
    split
    · exact ⟨[] :: ps, p, rfl, rfl⟩
    · -- The character goes into the last piece, which may also be the first one.
      cases ps with
      | nil => exact ⟨[], d :: p, rfl, rfl⟩
      | cons q qs => exact ⟨(d :: q) :: qs, p, rfl, rfl⟩

/-! ### Trimmed pieces -/

section

variable (hsep : isBlank sep = false)
include hsep

/-- A blank in front of a text stands in front of its first piece, and is trimmed there. -/
theorem map_trim_pieces_cons {c : Char} (hc : isBlank c = true) (cs : List Char) :
    (pieces sep (c :: cs)).map trim = (pieces sep cs).map trim := by
  have hne : c ≠ sep := fun h => Bool.false_ne_true (hsep.symm.trans (h ▸ hc))
  obtain ⟨p, ps, hps, hcons⟩ := pieces_cons_of_ne hne cs
  rw [hps, hcons, List.map_cons, List.map_cons, trim_cons_blank hc]

/-- A blank behind it stands behind its last piece. -/
theorem map_trim_pieces_concat {c : Char} (hc : isBlank c = true) (cs : List Char) :
    (pieces sep (cs ++ [c])).map trim = (pieces sep cs).map trim := by
  have hne : c ≠ sep := fun h => Bool.false_ne_true (hsep.symm.trans (h ▸ hc))
  obtain ⟨ps, p, hps, hconcat⟩ := pieces_concat hne cs
  rw [hps, hconcat, List.map_append, List.map_append, List.map_singleton, List.map_singleton,
    trim_append_blank hc]

/-- **Blanks at the ends of a text are blanks at the ends of its pieces**, so it does not matter
whether they are taken away before the text is cut.  One blank after the other. -/
theorem map_trim_pieces_trim (cs : List Char) :
    (pieces sep (trim cs)).map trim = (pieces sep cs).map trim := by
  obtain ⟨front, back, hcs, hfront, hback⟩ := exists_trim_append cs
  have hends : ∀ ts : List Char,
      (pieces sep (front ++ ts ++ back)).map trim = (pieces sep ts).map trim := by
    intro ts
    rw [List.append_assoc]
    clear hcs
    -- First the blanks in front, then those behind, one at a time.
    induction front with
    | nil =>
      induction back generalizing ts with
      | nil => rw [List.append_nil, List.nil_append]
      | cons c back ih =>
        obtain ⟨hc, hback⟩ := List.forall_mem_cons.mp hback
        have hmove : [] ++ (ts ++ c :: back) = [] ++ ((ts ++ [c]) ++ back) := by
          rw [List.append_assoc, List.singleton_append]
        rw [hmove, ih hback, map_trim_pieces_concat hsep hc]
    | cons c front ih =>
      obtain ⟨hc, hfront⟩ := List.forall_mem_cons.mp hfront
      rw [List.cons_append, map_trim_pieces_cons hsep hc, ih hfront]
  conv => rhs; rw [hcs]
  exact (hends (trim cs)).symm

end

/-! ## Joining -/

/-- **Joined by the separator, the pieces are the text again.**  Cutting loses nothing, also where a
piece is empty. -/
theorem intercalate_pieces (sep : Char) (cs : List Char) :
    [sep].intercalate (pieces sep cs) = cs := by
  induction cs with
  | nil => rfl
  | cons c cs ih =>
    by_cases hc : c = sep
    · rw [pieces, if_pos hc, List.intercalate_cons_of_ne_nil (pieces_ne_nil sep cs), ih, hc]
      rfl
    · obtain ⟨p, ps, hps, hcons⟩ := pieces_cons_of_ne hc cs
      rw [hps] at ih
      rw [hcons]
      cases ps with
      | nil =>
        rw [List.intercalate_singleton] at ih ⊢
        rw [ih]
      | cons q qs =>
        rw [List.intercalate_cons_cons] at ih ⊢
        rw [List.cons_append, List.cons_append, ih]

/-- **Texts without the separator are found again** in what they are joined to.  There must be at
least one of them, since a text always has a piece. -/
theorem pieces_intercalate {ps : List (List Char)} (hne : ps ≠ []) (h : ∀ p ∈ ps, sep ∉ p) :
    pieces sep ([sep].intercalate ps) = ps := by
  induction ps with
  | nil => exact absurd rfl hne
  | cons p ps ih =>
    have hp : sep ∉ p := h p List.mem_cons_self
    cases ps with
    | nil => rw [List.intercalate_singleton, pieces_of_not_mem hp]
    | cons q qs =>
      have hrest := ih (List.cons_ne_nil q qs) fun r hr => h r (List.mem_cons_of_mem p hr)
      rw [List.intercalate_cons_cons, List.append_assoc, List.singleton_append,
        pieces_append_cons hp, hrest]

end RouteIndex.Text
