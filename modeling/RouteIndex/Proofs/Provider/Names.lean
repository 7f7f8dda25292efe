/-
  The names that a provider registers its functions under.

  1. **Reading** — `assignedName?` reads the line that gives a function its name; `namesIn` are the
     names that some lines give.  Among the lines of a whole provider these are the registered names
     of its records, one for each and in their order (`namesIn_lines`): every other line begins
     otherwise, whatever texts it holds.
  2. **Placeholders** — a record without a name is registered under the variable of its call site.
     Numbers are written in one way only, so these variables differ (`functionVariable_injective`).
  3. **Collisions** — so the name of another record is the same only if its route spells the variable
     out (`registeredName_eq_functionVariable_iff`).
-/

import RouteIndex.Proofs.Provider.Reading

namespace RouteIndex.Provider

open Text (Scan)

/-! ## Reading names -/

/-- The name that a line assigns, if it is the line of a name. -/
def assignedName? (line : String) : Option String :=
  (between (indent 4 "Name = ") regular? ",").whole? line.toList

/-- The names that are assigned in some lines. -/
def namesIn (ls : List String) : List String :=
  ls.filterMap assignedName?

/-- A line that does not begin as the line of a name does assigns none. -/
theorem assignedName?_of_word {l : String}
    (h : Scan.word (indent 4 "Name = ").toList l.toList = none) : assignedName? l = none := by
  have hbetween : between (indent 4 "Name = ") regular? "," l.toList = none := bind_of_none _ h
  rw [assignedName?, Scan.whole?, hbetween]

/-- The line of a name assigns it, whatever characters are in it: the literal is undone by its
reader. -/
theorem assignedName?_nameLine (callSite : Nat) (name : Option String) :
    assignedName? (indent 4 ("Name = " ++ nameLiteral callSite name ++ ",")) =
      some (registeredName callSite name) := by
  rw [nameLine_eq, assignedName?, Scan.whole?, between_append (regular?_append _ _)]

theorem namesIn_append (ls ms : List String) : namesIn (ls ++ ms) = namesIn ls ++ namesIn ms :=
  List.filterMap_append

theorem namesIn_cons_of_none {l : String} (h : assignedName? l = none) (ls : List String) :
    namesIn (l :: ls) = namesIn ls :=
  List.filterMap_cons_none h

/-- Lines that assign no name can be passed over. -/
theorem namesIn_eq_nil {ls : List String} (h : ∀ l ∈ ls, assignedName? l = none) :
    namesIn ls = [] :=
  List.filterMap_eq_nil_iff.mpr h

/-! ## Lines that assign no name -/

/-- A line that is indented as far as that of a name, and goes on otherwise. -/
theorem assignedName?_indent_four {t : String}
    (h : Scan.word "Name = ".toList t.toList = none) : assignedName? (indent 4 t) = none := by
  apply assignedName?_of_word
  rw [word_indent]
  exact h

/-- A line that is indented less than that of a name, and goes on with no blank: at the first place
behind its indentation the other line still has one. -/
theorem assignedName?_indent_of_lt {steps : Nat} {t : String} (hsteps : steps < 4)
    (h : Scan.word [' '] t.toList = none) : assignedName? (indent steps t) = none := by
  have hspaces : List.replicate (4 * 4) ' ' =
      List.replicate (4 * steps) ' ' ++ ' ' :: List.replicate (4 * 4 - 4 * steps - 1) ' ' := by
    rw [← List.replicate_succ, List.replicate_append_replicate]
    congr 1
    omega
  -- The line has fewer blanks in front than an assignment, and then a character that is none.
  apply assignedName?_of_word
  rw [indent, indent, String.toList_append, String.toList_append, String.toList_ofList,
    String.toList_ofList, String.toList_ofList, hspaces, List.append_assoc, word_append_append]
  cases ht : t.toList with
  | nil => rfl
  | cons c cs =>
    have hc : ' ' ≠ c := by
      rintro rfl
      rw [ht] at h
      exact Option.some_ne_none _ h
    exact if_neg hc

/-- A line that is not indented at all. -/
theorem assignedName?_of_no_blank {t : String} (h : Scan.word [' '] t.toList = none) :
    assignedName? t = none := by
  have hindent : indent 0 t = t := String.empty_append
  rw [← hindent]
  exact assignedName?_indent_of_lt (by decide) h

/-- A line that is indented more than that of a name has a blank where the name is announced. -/
theorem assignedName?_indent_five (t : String) : assignedName? (indent 5 t) = none := by
  have hindent : indent 5 t = indent 4 ("    " ++ t) := by
    have hspaces : String.ofList (List.replicate (4 * 5) ' ') =
        String.ofList (List.replicate (4 * 4) ' ') ++ "    " := by decide
    rw [indent, indent, hspaces, String.append_assoc]
  rw [hindent]
  apply assignedName?_indent_four
  rw [String.toList_append]
  rfl

/-- A text that does not begin with a word does not do so with something behind it, if it is long
enough to decide this.  So a line is judged by its fixed beginning. -/
theorem word_append_of_none {w start : List Char} (h : Scan.word w start = none)
    (hlength : w.length ≤ start.length) (rest : List Char) :
    Scan.word w (start ++ rest) = none := by
  induction w generalizing start with
  | nil => nomatch h
  | cons c w ih =>
    cases start with
    | nil => exact absurd hlength (Nat.not_succ_le_zero _)
    | cons d start =>
      by_cases hc : c = d
      · have htail : Scan.word w start = none := (if_pos hc).symm.trans h
        exact (if_pos hc).trans (ih htail (Nat.le_of_succ_le_succ hlength))
      · exact if_neg hc

/-- A line with a text in it that is indented less than that of a name. -/
theorem assignedName?_indent_of_lt_append {steps : Nat} {start : String} (hsteps : steps < 4)
    (h : Scan.word [' '] start.toList = none) (hlength : 1 ≤ start.toList.length)
    (text ending : String) : assignedName? (indent steps (start ++ text ++ ending)) = none := by
  refine assignedName?_indent_of_lt hsteps ?_
  rw [String.toList_append, String.toList_append, List.append_assoc]
  exact word_append_of_none h hlength _

/-- A line with a text in it that is indented as far as that of a name, and begins otherwise. -/
theorem assignedName?_indent_four_append {start : String}
    (h : Scan.word "Name = ".toList start.toList = none) (hlength : 7 ≤ start.toList.length)
    (text ending : String) : assignedName? (indent 4 (start ++ text ++ ending)) = none := by
  apply assignedName?_indent_four
  rw [String.toList_append, String.toList_append, List.append_assoc]
  exact word_append_of_none h hlength _

/-- The line of a binding begins with a variable, whatever the binding says. -/
theorem assignedName?_bindingLine (n : Nat) (b : Binding) : assignedName? (bindingLine n b) = none := by
  refine assignedName?_indent_of_lt (by decide) ?_
  simp only [bindingsVariable, String.toList_append, List.append_assoc]
  rfl

/-- The lines of a policy have beginnings of their own, in all three forms. -/
theorem assignedName?_retryLines (p : RetryPolicy) : ∀ l ∈ retryLines p, assignedName? l = none := by
  unfold retryLines
  cases maxRetryCount? p with
  | none => exact List.forall_mem_nil _
  | some count =>
    simp only [List.forall_mem_append, List.forall_mem_cons, List.forall_mem_map]
    refine ⟨⟨⟨?_, ?_, List.forall_mem_nil _⟩, fun t _ => assignedName?_indent_five t⟩, ?_,
      List.forall_mem_nil _⟩
    · exact assignedName?_indent_four rfl
    · exact assignedName?_indent_four rfl
    · exact assignedName?_indent_four rfl

/-- **The lines of a function assign one name**, the one that its record is registered under.  All
its other lines are passed over, by their beginnings. -/
theorem namesIn_functionLines (r : FunctionRecord) :
    namesIn (functionLines r) = [registeredName r.callSite r.name] := by
  have hopening : assignedName?
      (indent 3 ("var " ++ bindingsVariable r.callSite ++ " = new List<string>();")) = none :=
    assignedName?_indent_of_lt_append (by decide) rfl (by decide) _ _
  have hbindings : ∀ l ∈ r.bindings.map (bindingLine r.callSite), assignedName? l = none :=
    List.forall_mem_map.mpr fun b _ => assignedName?_bindingLine r.callSite b
  have hdeclaration : assignedName?
      (indent 3 ("var " ++ functionVariable r.callSite ++ " = new DefaultFunctionMetadata")) =
        none :=
    assignedName?_indent_of_lt_append (by decide) rfl (by decide) _ _
  have hbrace : assignedName? (indent 3 "\x7b") = none := assignedName?_indent_of_lt (by decide) rfl
  have hlanguage : assignedName? (indent 4 ("Language = \"" ++ r.language ++ "\",")) = none :=
    assignedName?_indent_four_append rfl (by decide) _ _
  have hentry : assignedName? (indent 4 ("EntryPoint = \"" ++ r.entryPoint ++ "\",")) = none :=
    assignedName?_indent_four_append rfl (by decide) _ _
  have hraw : assignedName?
      (indent 4 ("RawBindings = " ++ bindingsVariable r.callSite ++ ",")) = none :=
    assignedName?_indent_four_append rfl (by decide) _ _
  have hscript : assignedName?
      (indent 4 ("ScriptFile = " ++ regularLiteral r.scriptFile)) = none := by
    rw [← String.append_empty (s := "ScriptFile = " ++ _)]
    exact assignedName?_indent_four_append rfl (by decide) _ _
  have hend : assignedName? (indent 3 "\x7d;") = none := assignedName?_indent_of_lt (by decide) rfl
  have hadd : assignedName?
      (indent 3 ("metadataList.Add(" ++ functionVariable r.callSite ++ ");")) = none :=
    assignedName?_indent_of_lt_append (by decide) rfl (by decide) _ _
  -- Every other line of a record is ruled out above; this is the one that assigns a name.
  have hname := assignedName?_nameLine r.callSite r.name
  simp only [functionLines, namesIn_append, namesIn_eq_nil hbindings,
    namesIn_eq_nil (assignedName?_retryLines r.retry)]
  simp only [namesIn, List.filterMap_cons, List.filterMap_nil, hopening, hdeclaration, hbrace,
    hlanguage, hname, hentry, hraw, hscript, hend, hadd, List.append_nil, List.nil_append]

/-! ## The lines of the frame -/

/-- The lines of the frame are fixed, so each of the five groups is looked through once. -/
theorem assignedName?_headerLines : ∀ l ∈ headerLines, assignedName? l = none := by
  simp only [headerLines, usedNamespaces, List.map_cons, List.map_nil, List.cons_append,
    List.nil_append, List.forall_mem_cons, List.not_mem_nil, false_implies, implies_true, and_true]
  and_intros
  all_goals refine assignedName?_of_no_blank ?_
  all_goals try rw [String.toList_append]
  all_goals rw [String.toList_ofList]
  all_goals rfl

theorem assignedName?_providerOpening : ∀ l ∈ providerOpening, assignedName? l = none := by
  simp only [providerOpening, List.forall_mem_cons, List.not_mem_nil, false_implies, implies_true,
    and_true]
  and_intros
  all_goals refine assignedName?_indent_of_lt (by decide) ?_
  all_goals try simp only [String.toList_append, List.append_assoc]
  all_goals rw [String.toList_ofList]
  all_goals rfl

theorem assignedName?_providerClosing : ∀ l ∈ providerClosing, assignedName? l = none := by
  simp only [providerClosing, List.forall_mem_cons, List.not_mem_nil, false_implies, implies_true,
    and_true]
  and_intros
  all_goals refine assignedName?_indent_of_lt (by decide) ?_
  all_goals rw [String.toList_ofList]
  all_goals rfl

theorem assignedName?_extensionLines : ∀ l ∈ extensionLines, assignedName? l = none := by
  simp only [extensionLines, List.forall_mem_cons, List.not_mem_nil, false_implies, implies_true,
    and_true]
  and_intros
  -- one of the lines is indented as far as that of a name
  all_goals first
    | refine assignedName?_indent_of_lt (by decide) ?_
    | apply assignedName?_indent_four
  all_goals try simp only [String.toList_append, List.append_assoc]
  all_goals rw [String.toList_ofList]
  all_goals rfl

theorem assignedName?_startupLines : ∀ l ∈ startupLines, assignedName? l = none := by
  simp only [startupLines, List.forall_mem_cons, List.not_mem_nil, false_implies, implies_true,
    and_true]
  and_intros
  all_goals refine assignedName?_indent_of_lt (by decide) ?_
  all_goals try simp only [String.toList_append, List.append_assoc]
  all_goals rw [String.toList_ofList]
  all_goals rfl

/-- **The lines of a provider assign one name for each record**, in the order of the records,
whatever the namespace is. -/
theorem namesIn_lines (options : Options) (records : List FunctionRecord) :
    namesIn (lines options records) = records.map fun r => registeredName r.callSite r.name := by
  have hfunctions : namesIn (records.flatMap functionLines) =
      records.map fun r => registeredName r.callSite r.name := by
    have hone : (fun r => (functionLines r).filterMap assignedName?) =
        fun r => [registeredName r.callSite r.name] := funext namesIn_functionLines
    rw [namesIn, List.filterMap_flatMap, hone, List.map_eq_flatMap]
  -- The namespace is the only other line with a text from outside, and it is not indented.
  have hnameSpace : namesIn ["namespace " ++ options.nameSpace, "\x7b"] = [] := by
    have hline : assignedName? ("namespace " ++ options.nameSpace) = none := by
      apply assignedName?_of_word
      rw [String.toList_append]
      rfl
    rw [namesIn_cons_of_none hline]
    rfl
  have hstartup : namesIn (if options.autoRegister then "" :: startupLines else []) = [] := by
    cases options.autoRegister with
    | false => rfl
    | true => exact namesIn_eq_nil (List.forall_mem_cons.mpr ⟨rfl, assignedName?_startupLines⟩)
  have hempty : namesIn [""] = [] := rfl
  have hbrace : namesIn ["\x7d"] = [] := rfl
  simp only [lines, namesIn_append, hfunctions, hnameSpace, hstartup, hempty, hbrace,
    namesIn_eq_nil assignedName?_headerLines, namesIn_eq_nil assignedName?_providerOpening,
    namesIn_eq_nil assignedName?_providerClosing, namesIn_eq_nil assignedName?_extensionLines,
    List.nil_append, List.append_nil]

/-! ## Placeholders -/

/-- A number is read back from its digits, so no two numbers have the same ones. -/
theorem number_injective {m n : Nat} (h : number m = number n) : m = n := by
  have hdigits : Text.digitsOf m = Text.digitsOf n := by
    have hlist := congrArg String.toList h
    rw [number, number, String.toList_ofList, String.toList_ofList] at hlist
    exact hlist
  have hread : some m = some n := by
    rw [← Text.readNumber?_digitsOf m, ← Text.readNumber?_digitsOf n, hdigits]
  exact Option.some.inj hread

/-- The variables of different positions differ, since their digits do. -/
theorem functionVariable_injective {m n : Nat} (h : functionVariable m = functionVariable n) :
    m = n :=
  number_injective ((String.append_right_inj _).mp h)

/-- A placeholder is never empty, so a route of slashes alone does not spell one. -/
theorem functionVariable_ne_empty (n : Nat) : functionVariable n ≠ "" := by
  intro h
  have hlist := congrArg String.toList h
  rw [functionVariable, String.toList_append] at hlist
  exact absurd (List.append_eq_nil_iff.mp hlist).1 (by decide)

/-- **The name of another function is a placeholder only if its route spells it.** If that function
has no route either, its name is the variable of another position. -/
theorem registeredName_eq_functionVariable_iff {m n : Nat} (hne : m ≠ n) (name : Option String) :
    registeredName m name = functionVariable n ↔
      ∃ route, name = some route ∧
        String.ofList (route.toList.filter (· ≠ '/')) = functionVariable n := by
  cases name with
  | none =>
    constructor
    · -- Two positional names differ as soon as their positions do.
      intro h
      exact absurd (functionVariable_injective h) hne
    · rintro ⟨route, h, -⟩
      nomatch h
  | some route =>
    constructor
    · exact fun h => ⟨route, rfl, h⟩
    · rintro ⟨route', h, hspelled⟩
      obtain rfl := Option.some.inj h
      exact hspelled

end RouteIndex.Provider
