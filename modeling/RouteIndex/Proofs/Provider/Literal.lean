/-
  String literals of C#, read back.

  1. **Readers** — `regular?` and `verbatim?` read a literal at the front of a text, and give its
     value and what stands behind it.  A regular literal ends at the first quote that is not
     escaped; a verbatim one ends at the first quote that is not followed by another.
  2. **Inverses** — each reader gives back the text that the literal was made of
     (`regular?_append`, `verbatim?_append`), by one lemma about a single character and an induction.
     Behind a verbatim literal no quote may follow; behind a regular one anything may.  A verbatim
     literal is read from nothing else (`verbatim?_eq_some_iff`).
  3. **Line feeds** — a regular literal has none, a verbatim one only those of its text.
-/

import RouteIndex.Provider.Literal
import RouteIndex.Text.Scan

namespace RouteIndex.Provider

open Text (Scan)

/-! ## Readers -/

/-- The character that an escape stands for. -/
def unescape? : Char → Option Char
  | '\\' => some '\\'
  | '"' => some '"'
  | 'n' => some '\n'
  | 'r' => some '\r'
  | 't' => some '\t'
  | _ => none

/-- A character in front of the value that a reader gives. -/
def prepend (c : Char) (read : List Char × List Char) : List Char × List Char :=
  (c :: read.1, read.2)

/-- A regular literal behind its opening quote. -/
def regularTail? : Scan (List Char)
  | '"' :: cs => some ([], cs)
  | '\\' :: c :: cs => (unescape? c).bind fun d => (regularTail? cs).map (prepend d)
  | c :: cs => (regularTail? cs).map (prepend c)
  | [] => none

/-- A regular literal. -/
def regular? : Scan String
  | '"' :: cs => (regularTail? cs).map fun (value, rest) => (String.ofList value, rest)
  | _ => none

/-- A verbatim literal behind its opening quote. -/
def verbatimTail? : Scan (List Char)
  | '"' :: '"' :: cs => (verbatimTail? cs).map (prepend '"')
  | '"' :: cs => some ([], cs)
  | c :: cs => (verbatimTail? cs).map (prepend c)
  | [] => none

/-- A verbatim literal. -/
def verbatim? : Scan String
  | '@' :: '"' :: cs => (verbatimTail? cs).map fun (value, rest) => (String.ofList value, rest)
  | _ => none

/-! ## Regular literals -/

/-- One character, escaped or not, is read as itself in front of the rest. -/
theorem regularTail?_escapeChar (c : Char) (rest : List Char) :
    regularTail? (escapeChar c ++ rest) = (regularTail? rest).map (prepend c) := by
  unfold escapeChar
  split
  case h_6 hbackslash hquote _ _ _ =>
    rw [List.singleton_append]
    exact regularTail?.eq_3 c rest (fun h => hquote h) (fun _ _ h _ => hbackslash h)
  all_goals rfl

/-- The characters of a text, one after the other, up to the first quote that is not escaped. -/
theorem regularTail?_append (s rest : List Char) :
    regularTail? (s.flatMap escapeChar ++ '"' :: rest) = some (s, rest) := by
  induction s with
  | nil => rfl
  | cons c s ih =>
    rw [List.flatMap_cons, List.append_assoc, regularTail?_escapeChar, ih]
    rfl

/-- **A regular literal is read back, whatever stands behind it.** Its closing quote is the first
one that is not escaped, so nothing behind it is looked at. -/
theorem regular?_append (s : String) (rest : List Char) :
    regular? ((regularLiteral s).toList ++ rest) = some (s, rest) := by
  rw [regularLiteral, String.toList_ofList, List.append_assoc]
  show (regularTail? (s.toList.flatMap escapeChar ++ '"' :: rest)).map _ = _
  rw [regularTail?_append]
  exact congrArg (fun value => some (value, rest)) s.ofList_toList

/-- A line feed is written by an escape, and no other character is written with one. -/
theorem newline_not_mem_escapeChar (c : Char) : '\n' ∉ escapeChar c := by
  unfold escapeChar
  split
  case h_6 hnewline _ _ =>
    rw [List.mem_singleton]
    exact fun h => hnewline h.symm
  all_goals decide

theorem newline_not_mem_regularLiteral (s : String) : '\n' ∉ (regularLiteral s).toList := by
  rw [regularLiteral, String.toList_ofList, List.cons_append, List.mem_cons, List.mem_append,
    List.mem_flatMap, List.mem_singleton]
  rintro (hquote | ⟨c, -, hc⟩ | hquote)
  · exact absurd hquote (by decide)
  · exact newline_not_mem_escapeChar c hc
  · exact absurd hquote (by decide)

/-! ## Verbatim literals -/

/-- Inside a verbatim literal every character but a quote is read as it stands. -/
theorem verbatimTail?_cons_of_ne {c : Char} (hc : c ≠ '"') (rest : List Char) :
    verbatimTail? (c :: rest) = (verbatimTail? rest).map (prepend c) :=
  verbatimTail?.eq_3 c rest (fun _ h _ => hc h) (fun h => hc h)

/-- One character, doubled or not, is read as itself in front of the rest. -/
theorem verbatimTail?_doubleQuote (c : Char) (rest : List Char) :
    verbatimTail? (doubleQuote c ++ rest) = (verbatimTail? rest).map (prepend c) := by
  unfold doubleQuote
  by_cases hc : c = '"'
  · rw [if_pos hc, hc]
    rfl
  · rw [if_neg hc]
    exact verbatimTail?_cons_of_ne hc rest

/-- The closing quote, with no other quote behind it.  A second one would make it a quote of the
text. -/
theorem verbatimTail?_quote {rest : List Char} (h : rest.head? ≠ some '"') :
    verbatimTail? ('"' :: rest) = some ([], rest) := by
  cases rest with
  | nil => rfl
  | cons c cs =>
    have hc : c ≠ '"' := fun hc => h (congrArg some hc)
    exact verbatimTail?.eq_2 (c :: cs) fun _ hcs => hc (List.cons.inj hcs).1

/-- The characters of a text, one after the other, by induction over the text. -/
theorem verbatimTail?_append (s : List Char) {rest : List Char} (h : rest.head? ≠ some '"') :
    verbatimTail? (s.flatMap doubleQuote ++ '"' :: rest) = some (s, rest) := by
  induction s with
  | nil => exact verbatimTail?_quote h
  | cons c s ih =>
    rw [List.flatMap_cons, List.append_assoc, verbatimTail?_doubleQuote, ih]
    rfl

/-- How a verbatim literal is written. -/
theorem toList_verbatimLiteral (s : String) :
    (verbatimLiteral s).toList = '@' :: '"' :: (s.toList.flatMap doubleQuote ++ ['"']) := by
  simp only [verbatimLiteral, verbatimBody, String.toList_append, String.toList_ofList]
  rfl

/-- **A verbatim literal is read back, where no quote stands behind it.** Where one does, the
literal would go on. -/
theorem verbatim?_append (s : String) {rest : List Char} (h : rest.head? ≠ some '"') :
    verbatim? ((verbatimLiteral s).toList ++ rest) = some (s, rest) := by
  rw [toList_verbatimLiteral, List.cons_append, List.cons_append, List.append_assoc]
  show (verbatimTail? (s.toList.flatMap doubleQuote ++ '"' :: rest)).map _ = _
  rw [verbatimTail?_append s.toList h]
  exact congrArg (fun value => some (value, rest)) s.ofList_toList

/-- What is read as the tail of a verbatim literal has been written as one.  The induction is along
the reader, which may take two characters at a time. -/
theorem eq_of_verbatimTail? {cs s rest : List Char} (h : verbatimTail? cs = some (s, rest)) :
    cs = s.flatMap doubleQuote ++ '"' :: rest ∧ rest.head? ≠ some '"' := by
  induction cs using verbatimTail?.induct generalizing s with
  | case1 cs ih =>
    obtain ⟨⟨value, _⟩, hvalue, hread⟩ := Option.map_eq_some_iff.mp h
    obtain ⟨rfl, rfl⟩ := Prod.mk.inj hread
    obtain ⟨rfl, hrest⟩ := ih hvalue
    exact ⟨rfl, hrest⟩
  -- One quote ends the literal, and the case before has taken those that are doubled.
  | case2 cs hone =>
    rw [verbatimTail?.eq_2 cs hone] at h
    obtain ⟨rfl, rfl⟩ := Prod.mk.inj (Option.some.inj h)
    refine ⟨rfl, fun hquote => ?_⟩
    obtain ⟨cs', hcs⟩ := List.head?_eq_some_iff.mp hquote
    exact hone cs' hcs
  | case3 c cs htwo hone ih =>
    have hc : c ≠ '"' := hone
    rw [verbatimTail?_cons_of_ne hc] at h
    obtain ⟨⟨value, _⟩, hvalue, hread⟩ := Option.map_eq_some_iff.mp h
    obtain ⟨rfl, rfl⟩ := Prod.mk.inj hread
    obtain ⟨rfl, hrest⟩ := ih hvalue
    refine ⟨?_, hrest⟩
    show _ = doubleQuote c ++ value.flatMap doubleQuote ++ _
    rw [doubleQuote, if_neg hc, List.append_assoc]
    rfl
  | case4 => nomatch h

/-- **Verbatim literals are what is read as one**, and each of them ends where no quote follows.
The text is determined by the characters, so this is the reader and its inverse at once. -/
theorem verbatim?_eq_some_iff {cs rest : List Char} {s : String} :
    verbatim? cs = some (s, rest) ↔
      cs = (verbatimLiteral s).toList ++ rest ∧ rest.head? ≠ some '"' := by
  constructor
  · intro h
    unfold verbatim? at h
    split at h
    · obtain ⟨⟨value, _⟩, hvalue, hread⟩ := Option.map_eq_some_iff.mp h
      obtain ⟨rfl, rfl⟩ := Prod.mk.inj hread
      obtain ⟨rfl, hrest⟩ := eq_of_verbatimTail? hvalue
      refine ⟨?_, hrest⟩
      rw [toList_verbatimLiteral, String.toList_ofList, List.cons_append, List.cons_append,
        List.append_assoc]
      rfl
    · nomatch h
  · rintro ⟨rfl, hrest⟩
    exact verbatim?_append s hrest

/-- Doubling adds no character but quotes. -/
theorem mem_flatMap_doubleQuote_iff {s : List Char} {c : Char} : c ∈ s.flatMap doubleQuote ↔ c ∈ s := by
  have hdouble (d : Char) : c ∈ doubleQuote d ↔ c = d := by
    unfold doubleQuote
    split
    · next hd => simp [hd]
    · exact List.mem_singleton
  simp only [List.mem_flatMap, hdouble, exists_eq_right']

/-- A verbatim literal has the line feeds of its text, so it has none if the text has none. -/
theorem newline_not_mem_verbatimLiteral {s : String} (h : '\n' ∉ s.toList) :
    '\n' ∉ (verbatimLiteral s).toList := by
  rw [toList_verbatimLiteral, List.mem_cons, List.mem_cons, List.mem_append,
    mem_flatMap_doubleQuote_iff, List.mem_singleton]
  rintro (hat | hquote | hmem | hquote)
  · exact absurd hat (by decide)
  · exact absurd hquote (by decide)
  · exact h hmem
  · exact absurd hquote (by decide)

end RouteIndex.Provider
