/-
  The marks of the summary.

  1. **Places** — every function has three lines in the summary, and the third one tells of its retries
     (`getElem?_summary`).
  2. **Marks** — a mark stands at the end of a line, behind its last opening bracket, for the names of
     fields have no brackets (`eq_of_append_bracket`); and from a list of names with commas between them
     the names are read back (`joined_injective`).
  3. **`marks_retryLine_iff`** — so the line of a policy is marked with its refused intervals and with
     nothing else, whatever its literals look like.
-/

import RouteIndex.Proofs.Text.Pieces
import RouteIndex.Report

namespace RouteIndex.Report

open Text (cut? pieces)

/-! ## Places -/

/-- The line about the retries of a function. -/
def retryLine (p : RetryPolicy) : String :=
  "└─ Retry:  " ++ retrySummary p

/-- Three lines for each function, of which the third one tells of its retries.  By induction over
the records, with the position left open. -/
theorem getElem?_functionSummaries (rs : List FunctionRecord) : ∀ k,
    (rs.flatMap functionSummary)[3 * k + 2]? = rs[k]?.map fun r => retryLine r.retry := by
  induction rs with
  | nil => exact fun _ => rfl
  | cons r rs ih =>
    intro k
    cases k with
    | zero => rfl
    | succ k => exact ih k

/-- The line of each function stands where its position says, behind the six lines that the summary
begins with. -/
theorem getElem?_summary (i : Generation.Inspection) {k : Nat} {r : FunctionRecord}
    (h : i.records[k]? = some r) : (summary i)[3 * k + 8]? = some (retryLine r.retry) := by
  have hline := getElem?_functionSummaries i.records k
  rw [h, Option.map_some] at hline
  obtain ⟨hlt, -⟩ := List.getElem?_eq_some_iff.mp hline
  show (i.records.flatMap functionSummary ++ diagnosticSummary i.diagnostics)[3 * k + 2]? = _
  rw [List.getElem?_append_left hlt, hline]

/-! ## Names with commas between them -/

/-- The names of the fields that policies keep intervals in. -/
def intervalNames : List String :=
  ["DelayInterval", "MinimumInterval", "MaximumInterval"]

/-- The three names are not empty and have letters only. -/
theorem intervalName_chars : ∀ n ∈ intervalNames, n ≠ "" ∧ ∀ c ∈ n.toList, c.isAlpha = true := by
  have hall : intervalNames.all (fun n => n ≠ "" && n.toList.all Char.isAlpha) = true := rfl
  intro n hn
  have hboth := List.all_eq_true.mp hall n hn
  rwa [Bool.and_eq_true, decide_eq_true_eq, List.all_eq_true] at hboth

/-- Names have letters only. -/
theorem not_mem_of_intervalName {n : String} (hn : n ∈ intervalNames) {c : Char}
    (hc : c.isAlpha = false) : c ∉ n.toList := by
  intro hmem
  rw [(intervalName_chars n hn).2 c hmem] at hc
  cases hc

/-- A comma and a space between two names are a comma between pieces, of which the later ones begin with
a space. -/
theorem toList_joined (n : String) (ns : List String) : (", ".intercalate (n :: ns)).toList =
    [','].intercalate (n.toList :: ns.map fun m => ' ' :: m.toList) := by
  induction ns generalizing n with
  | nil => rw [String.intercalate_singleton, List.map_nil, List.intercalate_singleton]
  | cons m ns ih =>
    -- The blank behind a comma goes over to the name that follows it.
    have hspace (rest : List (List Char)) : [','].intercalate ((' ' :: m.toList) :: rest) =
        ' ' :: [','].intercalate (m.toList :: rest) := by
      cases rest with
      | nil => rw [List.intercalate_singleton, List.intercalate_singleton]
      | cons p rest =>
        rw [List.intercalate_cons_cons, List.intercalate_cons_cons]
        rfl
    rw [String.intercalate_cons_cons, String.toList_append, String.toList_append, ih, List.map_cons,
      List.intercalate_cons_cons, hspace, List.append_assoc, List.append_assoc]
    rfl

variable {names names' : List String}

/-- **From names with commas between them the names are read back.** Cutting at the commas gives the
pieces, and all but the first of them lose a space. -/
theorem joined_injective (h : ∀ n ∈ names, n ∈ intervalNames) (h' : ∀ n ∈ names', n ∈ intervalNames)
    (heq : ", ".intercalate names = ", ".intercalate names') : names = names' := by
  have hcomma {n : String} (hn : n ∈ intervalNames) : ',' ∉ n.toList :=
    not_mem_of_intervalName hn (by decide)
  -- cut at the commas, the text gives the names back, the later ones with a space in front
  have hpieces {n : String} {ns : List String} (h : ∀ m ∈ n :: ns, m ∈ intervalNames) :
      pieces ',' (", ".intercalate (n :: ns)).toList =
        n.toList :: ns.map fun m => ' ' :: m.toList := by
    rw [toList_joined]
    obtain ⟨hn, hns⟩ := List.forall_mem_cons.mp h
    refine Text.pieces_intercalate nofun (List.forall_mem_cons.mpr ⟨hcomma hn, ?_⟩)
    simp only [List.forall_mem_map, List.mem_cons, not_or]
    exact fun m hm => ⟨by decide, hcomma (hns m hm)⟩
  have hempty {n : String} {ns : List String} (h : ∀ m ∈ n :: ns, m ∈ intervalNames) :
      ", ".intercalate (n :: ns) ≠ "" := by
    intro hnil
    have hfirst := hpieces h
    rw [hnil] at hfirst
    have hn : n.toList = [] := (List.cons.inj hfirst).1.symm
    exact (intervalName_chars n (h n List.mem_cons_self)).1 (String.toList_eq_nil_iff.mp hn)
  cases names with
  | nil =>
    cases names' with
    | nil => rfl
    | cons n' ns' => exact absurd heq.symm (hempty h')
  | cons n ns =>
    cases names' with
    | nil => exact absurd heq (hempty h)
    | cons n' ns' =>
      have hboth := hpieces h
      rw [heq, hpieces h'] at hboth
      obtain ⟨hfirst, hrest⟩ := List.cons.inj hboth
      have hspaced : Function.Injective fun m : String => ' ' :: m.toList := fun a b hab =>
        String.toList_inj.mp (List.cons.inj hab).2
      rw [String.toList_inj.mp hfirst, (List.map_inj_right hspaced).mp hrest]

/-! ## Marks -/

/-- A line ends with a mark that names fields. -/
def Marks (line : String) (names : List String) : Prop :=
  ∃ front, line = front ++ " (unparseable: " ++ ", ".intercalate names ++ ")"

/-- Names with commas between them have no brackets. -/
theorem bracket_not_mem_joined (h : ∀ n ∈ names, n ∈ intervalNames) :
    '(' ∉ (", ".intercalate names).toList := by
  induction names with
  | nil => exact List.not_mem_nil
  | cons n ns ih =>
    obtain ⟨hn, hns⟩ := List.forall_mem_cons.mp h
    have hname : '(' ∉ n.toList := not_mem_of_intervalName hn (by decide)
    cases ns with
    | nil => rwa [String.intercalate_singleton]
    | cons m ns =>
      rw [String.intercalate_cons_cons, String.toList_append, String.toList_append,
        List.mem_append, List.mem_append, not_or, not_or]
      exact ⟨⟨hname, by decide⟩, ih hns⟩

/-- What stands behind the last opening bracket can be told from the end, whatever stands in front
of it. -/
theorem eq_of_append_bracket {front front' back back' : List Char} (h : '(' ∉ back)
    (h' : '(' ∉ back') (heq : front ++ '(' :: back = front' ++ '(' :: back') : back = back' := by
  -- from the end, the last bracket is the first one
  have hcut (front : List Char) {back : List Char} (h : '(' ∉ back) :
      cut? '(' (front ++ '(' :: back).reverse = some (back.reverse, front.reverse) := by
    refine Text.cut?_eq_some_iff.mpr ⟨?_, fun hmem => h (List.mem_reverse.mp hmem)⟩
    rw [List.reverse_append, List.reverse_cons, List.append_assoc, List.singleton_append]
  have hboth := hcut front h
  rw [heq, hcut front' h'] at hboth
  exact (List.reverse_inj.mp (Prod.mk.inj (Option.some.inj hboth)).1).symm

/-- A mark can be read off the end of a line, although the literals in front may look like marks
themselves. -/
theorem names_of_mark {front front' : String} (h : ∀ n ∈ names, n ∈ intervalNames)
    (h' : ∀ n ∈ names', n ∈ intervalNames)
    (heq : front ++ " (unparseable: " ++ ", ".intercalate names ++ ")" =
      front' ++ " (unparseable: " ++ ", ".intercalate names' ++ ")") : names = names' := by
  -- Seen from the end of the line the mark opens with its last bracket, as no name has one.
  have hlist {front : String} {names : List String} :
      (front ++ " (unparseable: " ++ ", ".intercalate names ++ ")").toList =
        (front.toList ++ [' ']) ++ '(' ::
          ("unparseable: ".toList ++ (", ".intercalate names).toList ++ [')']) := by
    rw [String.toList_append, String.toList_append, String.toList_append]
    simp
  have hback {names : List String} (h : ∀ n ∈ names, n ∈ intervalNames) :
      '(' ∉ "unparseable: ".toList ++ (", ".intercalate names).toList ++ [')'] := by
    rw [List.mem_append, List.mem_append, not_or, not_or]
    exact ⟨⟨by decide, bracket_not_mem_joined h⟩, by decide⟩
  have hchars := congrArg String.toList heq
  rw [hlist, hlist] at hchars
  have hnames := eq_of_append_bracket (hback h) (hback h') hchars
  rw [List.append_assoc, List.append_assoc, List.append_cancel_left_eq,
    List.append_cancel_right_eq] at hnames
  exact joined_injective h h' (String.toList_inj.mp hnames)

/-- A line that does not end with a bracket has no mark. -/
theorem not_marks_of_getLast? {line : String} {c : Char} (h : line.toList.getLast? = some c)
    (hc : c ≠ ')') (names : List String) : ¬ Marks line names := by
  rintro ⟨front, rfl⟩
  rw [String.toList_append, List.getLast?_append] at h
  exact hc (Option.some.inj h).symm

/-- A policy is described between braces, so its line does not end with a bracket unless it is
marked. -/
theorem getLast?_describe {p : RetryPolicy} (h : p.isNone = false) (front : String) :
    (front ++ p.describe).toList.getLast? = some '}' := by
  have hend (s : String) : (front ++ (s ++ " \x7d")).toList.getLast? = some '}' := by
    rw [String.toList_append, String.toList_append, List.getLast?_append, List.getLast?_append]
    rfl
  cases p with
  | none => cases h
  | fixedDelay count delay => exact hend _
  | exponentialBackoff count low high => exact hend _

/-- The refused intervals are named in the order of the fields: what a policy has are some of the
fields, and what is refused are some of those. -/
theorem invalidIntervals_sublist (p : RetryPolicy) : p.invalidIntervals.Sublist intervalNames := by
  have hfields : (p.intervals.map (·.1)).Sublist intervalNames := by
    cases p with
    | none => exact List.nil_sublist _
    | fixedDelay count delay => exact List.singleton_sublist.mpr List.mem_cons_self
    | exponentialBackoff count low high => exact List.sublist_cons_self _ _
  exact (List.filter_sublist.map _).trans hfields

/-- **The line of a policy is marked with its refused intervals and with nothing else.** The cases
are no policy, a policy with nothing refused, and one with a mark. -/
theorem marks_retryLine_iff (p : RetryPolicy) (h : ∀ n ∈ names, n ∈ intervalNames) :
    Marks (retryLine p) names ↔ names ≠ [] ∧ names = p.invalidIntervals := by
  have hinvalid : ∀ n ∈ p.invalidIntervals, n ∈ intervalNames :=
    fun n hn => (invalidIntervals_sublist p).subset hn
  cases hnone : p.isNone with
  | true =>
    -- no policy has no intervals
    have hempty : p.invalidIntervals = [] := by
      cases p with
      | none => rfl
      | _ => cases hnone
    have hline : retryLine p = "└─ Retry:  none" := by rw [retryLine, retrySummary, hnone]; rfl
    rw [hempty, hline]
    refine iff_of_false (not_marks_of_getLast? (c := 'e') rfl (by decide) names) ?_
    exact fun hboth => hboth.1 hboth.2
  | false =>
    by_cases hempty : p.invalidIntervals = []
    · have hline : retryLine p = "└─ Retry:  " ++ p.describe := by
        rw [retryLine, retrySummary, hnone, hempty]
        rfl
      rw [hempty, hline]
      refine iff_of_false (not_marks_of_getLast? (getLast?_describe hnone _) (by decide) names) ?_
      exact fun hboth => hboth.1 hboth.2
    · have hline : retryLine p = ("└─ Retry:  " ++ p.describe) ++ " (unparseable: " ++
          ", ".intercalate p.invalidIntervals ++ ")" := by
        rw [retryLine, retrySummary, hnone, List.isEmpty_eq_false_iff.mpr hempty]
        simp [String.append_assoc]
      constructor
      · rintro ⟨front, hfront⟩
        have hnames := names_of_mark h hinvalid (hfront.symm.trans hline)
        exact ⟨hnames ▸ hempty, hnames⟩
      · rintro ⟨-, rfl⟩
        exact ⟨_, hline⟩

end RouteIndex.Report
