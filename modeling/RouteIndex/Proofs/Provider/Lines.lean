/-
  The lines of a provider, cut apart again.

  The source is made of lines, each ended by a line feed.  Cutting it at the line feeds gives the same
  lines back (`fileLines_source`), because none of them has a line feed of its own
  (`oneLine_lines`): the lines of the frame are plain texts, bindings have none in their JSON, and the
  other texts of a record stand in regular literals, which escape them.  The namespace is pasted as it
  is, so it must not have one either.
-/

import RouteIndex.Proofs.BindingText
import RouteIndex.Proofs.Provider.Literal
import RouteIndex.Proofs.Text.Pieces
import RouteIndex.Provider.Source

namespace RouteIndex.Provider

/-! ## Texts on one line -/

/-- Whether a text has no line feed. -/
def OneLine (s : String) : Prop :=
  '\n' ∉ s.toList

theorem oneLine_ofList {cs : List Char} (h : '\n' ∉ cs) : OneLine (String.ofList cs) := by
  rw [OneLine, String.toList_ofList]
  exact h

/-- A text has a line feed exactly if one of its two parts has one, so that a line can be looked at
piece by piece. -/
theorem oneLine_append {s t : String} : OneLine (s ++ t) ↔ OneLine s ∧ OneLine t := by
  rw [OneLine, String.toList_append, List.mem_append, not_or]
  rfl

/-- The steps of an indentation are blanks, so only the line behind them counts. -/
theorem oneLine_indent {steps : Nat} {s : String} : OneLine (indent steps s) ↔ OneLine s := by
  have hspaces : OneLine (String.ofList (List.replicate (4 * steps) ' ')) := by
    refine oneLine_ofList fun h => ?_
    exact absurd (List.mem_replicate.mp h).2 (by decide)
  rw [indent, oneLine_append]
  exact ⟨And.right, And.intro hspaces⟩

/-- Printable texts are on one line: the line feed lies below all printable characters.  This is how
the JSON of a binding gets onto a line. -/
theorem oneLine_of_printable {s : String} (h : Json.Printable s.toList) : OneLine s := by
  intro hmem
  exact absurd (h '\n' hmem) (by decide)

theorem oneLine_number (n : Nat) : OneLine (number n) := by
  refine oneLine_ofList fun h => ?_
  exact absurd (Text.isDigit_of_mem_digitsOf h) (by decide)

/-- An integer is written with digits and perhaps a minus. -/
theorem oneLine_integer (i : Int) : OneLine (String.ofList (Text.integerDigits i)) := by
  refine oneLine_ofList fun h => ?_
  exact absurd (Json.printable_integerDigits i '\n' h) (by decide)

/-- A regular literal is on one line whatever text it is made of, for it escapes the line feeds. -/
theorem oneLine_regularLiteral (s : String) : OneLine (regularLiteral s) :=
  newline_not_mem_regularLiteral s

theorem oneLine_bindingsVariable (n : Nat) : OneLine (bindingsVariable n) := by
  rw [bindingsVariable, oneLine_append, oneLine_append]
  exact ⟨⟨oneLine_ofList (by decide), oneLine_number n⟩, oneLine_ofList (by decide)⟩

theorem oneLine_functionVariable (n : Nat) : OneLine (functionVariable n) := by
  rw [functionVariable, oneLine_append]
  exact ⟨oneLine_ofList (by decide), oneLine_number n⟩

/-! ## The lines of a function -/

/-- The line that adds a binding: a verbatim literal escapes no line feeds, but the JSON of a
binding has none. -/
theorem oneLine_bindingLine (n : Nat) (b : Binding) : OneLine (bindingLine n b) := by
  have hliteral : OneLine (verbatimLiteral b.text) :=
    newline_not_mem_verbatimLiteral (oneLine_of_printable b.printable_text)
  simp only [bindingLine, oneLine_indent, oneLine_append]
  exact ⟨⟨⟨oneLine_bindingsVariable n, oneLine_ofList (by decide)⟩, hliteral⟩,
    oneLine_ofList (by decide)⟩

theorem oneLine_intervalAssignment {field : String} (h : OneLine field) (literal : String) :
    OneLine (intervalAssignment field literal) := by
  simp only [intervalAssignment, oneLine_append]
  exact ⟨⟨⟨h, oneLine_ofList (by decide)⟩, oneLine_regularLiteral literal⟩,
    oneLine_ofList (by decide)⟩

/-- Commas behind all lines but the last put no line feed into them.  The induction follows
`withCommas`, which looks at two lines at a time. -/
theorem oneLine_withCommas : ∀ {ls : List String}, (∀ l ∈ ls, OneLine l) →
    ∀ l ∈ withCommas ls, OneLine l
  | [], h => h
  | [_], h => h
  | line :: next :: ls, h => by
    intro l hl
    rcases List.mem_cons.mp hl with rfl | hl
    · rw [oneLine_append]
      exact ⟨h line List.mem_cons_self, oneLine_ofList (by decide)⟩
    · exact oneLine_withCommas (fun l hl => h l (List.mem_cons_of_mem line hl)) l hl

/-- The fields of a policy are named by words. -/
theorem oneLine_intervals (p : RetryPolicy) : ∀ f ∈ p.intervals, OneLine f.1 := by
  cases p with
  | none => exact fun f hf => (List.not_mem_nil hf).elim
  | fixedDelay count delay =>
    intro f hf
    rw [List.mem_singleton.mp hf]
    exact oneLine_ofList (by decide)
  | exponentialBackoff count low high =>
    intro f hf
    rcases List.mem_cons.mp hf with rfl | hf
    · exact oneLine_ofList (by decide)
    · rw [List.mem_singleton.mp hf]
      exact oneLine_ofList (by decide)

/-- The lines of a policy: its texts stand in regular literals and its count is an integer. -/
theorem oneLine_retryLines (p : RetryPolicy) : ∀ l ∈ retryLines p, OneLine l := by
  unfold retryLines
  cases maxRetryCount? p with
  | none => exact List.forall_mem_nil _
  | some count =>
    have hfields : ∀ l ∈ ("MaxRetryCount = " ++ String.ofList (Text.integerDigits count.toInt)) ::
        p.intervals.map (fun f => intervalAssignment f.1 f.2), OneLine l := by
      rw [List.forall_mem_cons, oneLine_append, List.forall_mem_map]
      exact ⟨⟨oneLine_ofList (by decide), oneLine_integer _⟩,
        fun f hf => oneLine_intervalAssignment (oneLine_intervals p f hf) f.2⟩
    simp only [List.forall_mem_append, List.forall_mem_cons, List.forall_mem_map, oneLine_indent]
    exact ⟨⟨⟨oneLine_ofList (by decide), oneLine_ofList (by decide), List.forall_mem_nil _⟩,
      oneLine_withCommas hfields⟩, oneLine_ofList (by decide), List.forall_mem_nil _⟩

/-- The lines of a function.  Its language and its entry point are pasted as they are, so they are
asked for; every other text of a record is in a literal. -/
theorem oneLine_functionLines {r : FunctionRecord} (hlanguage : OneLine r.language)
    (hentry : OneLine r.entryPoint) : ∀ l ∈ functionLines r, OneLine l := by
  have hretry := oneLine_retryLines r.retry
  simp only [functionLines, nameLiteral, List.forall_mem_append, List.forall_mem_cons,
    List.forall_mem_map, List.not_mem_nil, false_implies, implies_true, and_true, oneLine_indent,
    oneLine_append, oneLine_bindingsVariable, oneLine_functionVariable, oneLine_bindingLine,
    oneLine_regularLiteral, hlanguage, hentry]
  -- what is left are the retry policy and the plain texts of the frame
  and_intros
  all_goals first | exact hretry | exact oneLine_ofList (by decide)

/-! ## The lines of the frame -/

/-- The lines of the frame are fixed texts; each of the five groups is looked through once. -/
theorem oneLine_headerLines : ∀ l ∈ headerLines, OneLine l := by
  simp only [headerLines, usedNamespaces, List.map_cons, List.map_nil, List.cons_append,
    List.nil_append, List.forall_mem_cons, List.not_mem_nil, false_implies, implies_true, and_true,
    oneLine_append]
  and_intros
  all_goals exact oneLine_ofList (by decide)

theorem oneLine_providerOpening : ∀ l ∈ providerOpening, OneLine l := by
  simp only [providerOpening, providerClass, List.forall_mem_cons, List.not_mem_nil, false_implies,
    implies_true, and_true, oneLine_indent, oneLine_append]
  and_intros
  all_goals exact oneLine_ofList (by decide)

theorem oneLine_providerClosing : ∀ l ∈ providerClosing, OneLine l := by
  simp only [providerClosing, List.forall_mem_cons, List.not_mem_nil, false_implies, implies_true,
    and_true, oneLine_indent]
  and_intros
  all_goals exact oneLine_ofList (by decide)

theorem oneLine_extensionLines : ∀ l ∈ extensionLines, OneLine l := by
  simp only [extensionLines, extensionClass, extensionMethod, providerClass, List.forall_mem_cons,
    List.not_mem_nil, false_implies, implies_true, and_true, oneLine_indent, oneLine_append]
  and_intros
  all_goals exact oneLine_ofList (by decide)

theorem oneLine_startupLines : ∀ l ∈ startupLines, OneLine l := by
  simp only [startupLines, startupClass, extensionMethod, List.forall_mem_cons, List.not_mem_nil,
    false_implies, implies_true, and_true, oneLine_indent, oneLine_append]
  and_intros
  all_goals exact oneLine_ofList (by decide)

/-- **No line of a provider has a line feed of its own**, if the texts that are pasted without a
literal have none. -/
theorem oneLine_lines {options : Options} {records : List FunctionRecord}
    (hnameSpace : OneLine options.nameSpace)
    (hrecords : ∀ r ∈ records, OneLine r.language ∧ OneLine r.entryPoint) :
    ∀ l ∈ lines options records, OneLine l := by
  have hfunctions : ∀ l ∈ records.flatMap functionLines, OneLine l := by
    intro l hl
    obtain ⟨r, hr, hmem⟩ := List.mem_flatMap.mp hl
    exact oneLine_functionLines (hrecords r hr).1 (hrecords r hr).2 l hmem
  have hstartup : ∀ l ∈ (if options.autoRegister then "" :: startupLines else []), OneLine l := by
    split
    · rw [List.forall_mem_cons]
      exact ⟨oneLine_ofList (by decide), oneLine_startupLines⟩
    · exact List.forall_mem_nil _
  -- The namespace and the records are the only texts from outside; all the rest is fixed.
  have hline : OneLine ("namespace " ++ options.nameSpace) := by
    rw [oneLine_append]
    exact ⟨oneLine_ofList (by decide), hnameSpace⟩
  simp only [lines, List.forall_mem_append, List.forall_mem_cons]
  refine ⟨⟨⟨⟨⟨⟨⟨⟨oneLine_headerLines, hline, ?_, List.forall_mem_nil _⟩, oneLine_providerOpening⟩,
    hfunctions⟩, oneLine_providerClosing⟩, ?_, List.forall_mem_nil _⟩, oneLine_extensionLines⟩,
    hstartup⟩, ?_, List.forall_mem_nil _⟩
  all_goals exact oneLine_ofList (by decide)

/-! ## Cutting the source -/

/-- The texts between the line feeds of a text. -/
def fileLines (text : String) : List String :=
  (Text.pieces '\n' text.toList).map String.ofList

/-- Cutting undoes ending: lines without line feeds, each ended by one, are cut into the same lines
and the empty text that is left behind the last end. -/
theorem pieces_flatMap {ls : List String} (h : ∀ l ∈ ls, OneLine l) :
    (Text.pieces '\n' (ls.flatMap fun l => l.toList ++ ['\n'])).map String.ofList = ls ++ [""] := by
  induction ls with
  | nil => rfl
  | cons l ls ih =>
    rw [List.flatMap_cons, List.append_assoc, List.singleton_append,
      Text.pieces_append_cons (h l List.mem_cons_self), List.map_cons, String.ofList_toList,
      ih fun m hm => h m (List.mem_cons_of_mem l hm), List.cons_append]

/-- **The source is cut into the lines that it was made of**, and the empty text behind the last
line feed.  From here on a provider is a list of lines. -/
theorem fileLines_source {options : Options} {records : List FunctionRecord}
    (hnameSpace : OneLine options.nameSpace)
    (hrecords : ∀ r ∈ records, OneLine r.language ∧ OneLine r.entryPoint) :
    fileLines (source options records) = lines options records ++ [""] := by
  rw [fileLines, source, String.toList_ofList]
  exact pieces_flatMap (oneLine_lines hnameSpace hrecords)

end RouteIndex.Provider
