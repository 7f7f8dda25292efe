/-
  Trimming.

  A text without its blank ends is a part of the text that is left alone where there are no blanks
  (`trim_eq_self`), and nothing is left exactly if nothing but blanks was there
  (`trim_eq_nil_iff`).  Only blanks are taken away (`exists_trim_append`), and how many there are does
  not matter (`trim_cons_blank`, `trim_append_blank`).
-/

import RouteIndex.Text.Blank

namespace RouteIndex.Text

/-- A text is not blank if some character of it is not. -/
theorem isBlankText_eq_false_iff {cs : List Char} :
    isBlankText cs = false ↔ ∃ c ∈ cs, isBlank c = false := by
  rw [isBlankText, List.all_eq_false]
  simp

/-- Nothing is left behind the blanks in front exactly if there are only blanks. -/
theorem dropWhile_isBlank_eq_nil_iff {cs : List Char} :
    cs.dropWhile isBlank = [] ↔ isBlankText cs = true := by
  rw [isBlankText, List.all_eq_true]
  induction cs with
  | nil => simp
  | cons c cs ih =>
    rw [List.dropWhile_cons, List.forall_mem_cons]
    by_cases hc : isBlank c = true
    · rw [if_pos hc, ih, and_iff_right hc]
    · rw [if_neg hc]
      exact ⟨fun h => absurd h (List.cons_ne_nil c cs), fun h => absurd h.1 hc⟩

/-- Nothing is left of a text that is blank, and of no other.  Both ends are taken away one after
the other, but either of them would do. -/
theorem trim_eq_nil_iff {cs : List Char} : trim cs = [] ↔ isBlankText cs = true := by
  have hreverse : isBlankText (cs.dropWhile isBlank).reverse = isBlankText (cs.dropWhile isBlank) :=
    List.all_reverse
  have hfront : cs.dropWhile isBlank = [] ↔ isBlankText cs = true := dropWhile_isBlank_eq_nil_iff
  rw [trim, List.reverse_eq_nil_iff, dropWhile_isBlank_eq_nil_iff, hreverse, ← hfront]
  constructor
  · intro h
    cases hrest : cs.dropWhile isBlank with
    | nil => rfl
    | cons c rest =>
      -- the first character that is left is not blank
      have hhead := List.head?_dropWhile_not isBlank cs
      rw [hrest] at h hhead
      have hc : isBlank c = true := List.all_eq_true.mp h c List.mem_cons_self
      exact absurd (hhead.symm.trans hc) Bool.false_ne_true
  · intro h
    rw [h]
    rfl

/-- The same as a test, which is how the code asks it. -/
theorem isEmpty_trim (cs : List Char) : (trim cs).isEmpty = isBlankText cs := by
  rw [Bool.eq_iff_iff, List.isEmpty_iff, trim_eq_nil_iff]

theorem dropWhile_isBlank_eq_self {cs : List Char} (h : ∀ c ∈ cs, isBlank c = false) :
    cs.dropWhile isBlank = cs := by
  cases cs with
  | nil => rfl
  | cons c cs =>
    refine List.dropWhile_cons_of_neg ?_
    rw [h c List.mem_cons_self]
    exact Bool.false_ne_true

/-- A text without blanks is left alone, for example a text of letters and digits. -/
theorem trim_eq_self {cs : List Char} (h : ∀ c ∈ cs, isBlank c = false) : trim cs = cs := by
  have hreverse : ∀ c ∈ cs.reverse, isBlank c = false := fun c hc => h c (List.mem_reverse.mp hc)
  rw [trim, dropWhile_isBlank_eq_self h, dropWhile_isBlank_eq_self hreverse, List.reverse_reverse]

/-! ## Blanks at the ends -/

/-- One blank more in front does not matter. -/
theorem trim_cons_blank {c : Char} (hc : isBlank c = true) (cs : List Char) :
    trim (c :: cs) = trim cs := by
  rw [trim, List.dropWhile_cons_of_pos hc, trim]

/-- Nor does one behind. -/
theorem trim_append_blank {c : Char} (hc : isBlank c = true) (cs : List Char) :
    trim (cs ++ [c]) = trim cs := by
  have hreverse (ds : List Char) : (ds ++ [c]).reverse.dropWhile isBlank =
      ds.reverse.dropWhile isBlank := by
    rw [List.reverse_append, List.reverse_singleton, List.singleton_append,
      List.dropWhile_cons_of_pos hc]
  rw [trim, List.dropWhile_append]
  split
  · next hnil =>
    rw [List.isEmpty_iff] at hnil
    rw [trim, hnil, List.dropWhile_cons_of_pos hc]
    rfl
  · rw [hreverse, trim]

/-- A text has blanks around what is left of it, and nothing else. -/
theorem exists_trim_append (cs : List Char) : ∃ front back, cs = front ++ trim cs ++ back ∧
    (∀ c ∈ front, isBlank c = true) ∧ ∀ c ∈ back, isBlank c = true := by
  refine ⟨cs.takeWhile isBlank, ((cs.dropWhile isBlank).reverse.takeWhile isBlank).reverse, ?_, ?_, ?_⟩
  · rw [trim, List.append_assoc, ← List.reverse_append, List.takeWhile_append_dropWhile,
      List.reverse_reverse, List.takeWhile_append_dropWhile]
  · exact List.all_eq_true.mp List.all_takeWhile
  · exact fun c hc => List.all_eq_true.mp List.all_takeWhile c (List.mem_reverse.mp hc)

/-- What is left of a text is blank only if the text is. -/
theorem isBlankText_trim (cs : List Char) : isBlankText (trim cs) = isBlankText cs := by
  obtain ⟨front, back, hcs, hfront, hback⟩ := exists_trim_append cs
  conv => rhs; rw [hcs]
  rw [isBlankText, isBlankText, List.all_append, List.all_append, List.all_eq_true.mpr hfront,
    List.all_eq_true.mpr hback, Bool.true_and, Bool.and_true]

/-- What is said of characters above, said of texts. -/
theorem strip_eq_empty_iff {s : String} : strip s = "" ↔ isBlankText s.toList = true := by
  rw [strip, String.ofList_eq_empty_iff, trim_eq_nil_iff]

/-- The code points of letters, as two ranges, so that arithmetic can decide what no letter is. -/
theorem toNat_of_isAlpha {c : Char} (h : c.isAlpha = true) :
    65 ≤ c.toNat ∧ c.toNat ≤ 90 ∨ 97 ≤ c.toNat ∧ c.toNat ≤ 122 := by
  have hranges : c.isAlpha = (decide ('A'.val ≤ c.val ∧ c.val ≤ 'Z'.val) ||
      (decide ('a'.val ≤ c.val) && decide (c.val ≤ 'z'.val))) := rfl
  rw [hranges, Bool.or_eq_true, decide_eq_true_eq, Bool.and_eq_true, decide_eq_true_eq,
    decide_eq_true_eq] at h
  exact h

/-- No letter or digit is blank, so names and numbers are never trimmed. -/
theorem isBlank_of_isAlphanum {c : Char} (h : c.isAlphanum = true) : isBlank c = false := by
  have hrange : 48 ≤ c.toNat ∧ c.toNat ≤ 122 := by
    cases (Bool.or_eq_true _ _).mp h with
    | inl halpha =>
      have hletter := toNat_of_isAlpha halpha
      omega
    | inr hdigit =>
      have hdigit : 48 ≤ c.toNat ∧ c.toNat ≤ 57 := Char.isDigit_iff_toNat.mp hdigit
      omega
  simp only [isBlank, Bool.or_eq_false_iff, Bool.and_eq_false_iff, decide_eq_false_iff_not,
    beq_eq_false_iff_ne]
  omega

end RouteIndex.Text
