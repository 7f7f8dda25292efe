/-
  Regular literals as C# reads them.

  `regular?` undoes the escapes of a literal, but it accepts more than C# does.  Here the grammar of
  C# itself is written down as a reader, and the literals of a provider are held against it.

  1. **Grammar** — `element?` reads one character of a literal or one escape; the characters that C#
     takes for the end of a line are no elements.  `lexRegular?` reads a whole literal, and gives the
     UTF-16 code units of its value.
  2. **Literals** — the five characters that are escaped become escapes of C#, and every other one
     stands for itself, but for three: the next line U+0085 and the two separators U+2028 and U+2029
     end a line, and are not escaped (`breaksLine`).  So a literal is one of C#, with the value that
     it was made of, exactly where its text has none of these three (`lexRegular?_append`).
  3. **Lines** — the same holds for the lines that name a function, its intervals and its script
     file, with the frame of the line around the literal (`QuotedLine.lex?_eq`).
-/

import RouteIndex.Proofs.Provider.Reading

namespace RouteIndex.Provider

open Text (Scan)

/-! ## Grammar -/

/-- The characters that C# takes for the end of a line. -/
def newLines : List Char :=
  ['\n', '\r', '\u0085', '\u2028', '\u2029']

/-- The UTF-16 code units of a code point. -/
def unitsOf (n : Nat) : List Nat :=
  if n < 0x10000 then [n]
  else [0xD800 + (n - 0x10000) / 0x400, 0xDC00 + (n - 0x10000) % 0x400]

/-- The value of a text in C#. -/
def textUnits (s : String) : List Nat :=
  s.toList.flatMap fun c => unitsOf c.toNat

/-- The escapes of one letter, with the code units that they stand for. -/
def simpleEscapes : List (Char × Nat) :=
  [('\'', 0x27), ('"', 0x22), ('\\', 0x5C), ('0', 0x0), ('a', 0x7), ('b', 0x8), ('f', 0xC),
    ('n', 0xA), ('r', 0xD), ('t', 0x9), ('v', 0xB)]

/-- As many hexadecimal digits as there are, but at least `least` and at most `most`. -/
def hexNumber? (least most : Nat) : Scan Nat :=
  fun cs =>
    let digits := (cs.take most).takeWhile fun c => (Text.hexValue? c).isSome
    if least ≤ digits.length then
      some ((digits.filterMap Text.hexValue?).foldl (fun n d => 16 * n + d) 0,
        cs.drop digits.length)
    else none

/-- An escape behind its backslash. -/
def escape? : Scan (List Nat)
  | 'x' :: cs => (hexNumber? 1 4 cs).map fun (n, rest) => ([n], rest)
  | 'u' :: cs => (hexNumber? 4 4 cs).map fun (n, rest) => ([n], rest)
  | 'U' :: cs =>
    (hexNumber? 8 8 cs).bind fun (n, rest) => if n < 0x110000 then some (unitsOf n, rest) else none
  | c :: cs => (simpleEscapes.lookup c).map fun unit => ([unit], cs)
  | [] => none

/-- One element of a regular literal: an escape, or a character that stands for itself. -/
def element? : Scan (List Nat)
  | '\\' :: cs => escape? cs
  | c :: cs => if c = '"' ∨ c ∈ newLines then none else some (unitsOf c.toNat, cs)
  | [] => none

/-- A regular literal of C#. -/
def lexRegular? : Scan (List Nat) := do
  Scan.word ['"']
  let units ← Scan.many element?
  Scan.word ['"']
  return units.flatten

/-! ## Elements -/

/-- Whether a character ends a line and is not escaped in a literal. -/
def breaksLine (c : Char) : Bool :=
  c = '\u0085' ∨ c = '\u2028' ∨ c = '\u2029'

/-- A character that breaks no line is one element in the way in which it is written, and the value
of the element is the character.  The five that are escaped are looked at one by one; every other
one stands for itself. -/
theorem element?_escapeChar {c : Char} (h : breaksLine c = false) (rest : List Char) :
    element? (escapeChar c ++ rest) = some (unitsOf c.toNat, rest) := by
  unfold escapeChar
  split
  -- A character that is not escaped stands for itself unless it ends the literal or the line.
  case h_6 hbackslash hquote hnewline hreturn _ =>
    have hplain : ¬ (c = '"' ∨ c ∈ newLines) := by
      simp only [newLines, List.mem_cons, List.not_mem_nil, or_false]
      simp only [breaksLine, decide_eq_false_iff_not] at h
      rintro (hc | hc | hc | hc)
      · exact hquote hc
      · exact hnewline hc
      · exact hreturn hc
      · exact h hc
    rw [List.singleton_append, element?.eq_2 c rest (fun h => hbackslash h), if_neg hplain]
  all_goals rfl

/-- A character that breaks a line stands in the literal as it is, where it is neither an element
nor the closing quote.  A reader that comes to it can go neither on nor out. -/
theorem escapeChar_of_breaksLine {c : Char} (h : breaksLine c = true) (rest : List Char) :
    escapeChar c = [c] ∧ element? (c :: rest) = none ∧ Scan.word ['"'] (c :: rest) = none := by
  simp only [breaksLine, decide_eq_true_eq] at h
  rcases h with rfl | rfl | rfl <;> exact ⟨rfl, rfl, rfl⟩

/-- Of the characters that end a line, the line feed and the carriage return are escaped and the
others are written as they are. -/
theorem mem_escapeChar_iff {c : Char} (hc : c ∈ newLines) (d : Char) :
    c ∈ escapeChar d ↔ d = c ∧ breaksLine c = true := by
  simp only [newLines, List.mem_cons, List.not_mem_nil, or_false] at hc
  unfold escapeChar
  split
  -- The two line ends that are escaped do not reach this case, the other three do.
  case h_6 hnewline hreturn _ =>
    rw [List.mem_singleton, eq_comm]
    refine (and_iff_left_of_imp ?_).symm
    rintro rfl
    simp only [breaksLine, decide_eq_true_eq]
    rcases hc with hc | hc | hc
    · exact absurd hc hnewline
    · exact absurd hc hreturn
    · exact hc
  all_goals rcases hc with rfl | rfl | rfl | rfl | rfl <;> decide

/-! ## Literals -/

/-- A literal has the characters that end a line from its text, but for those that it escapes.  So
the literal is broken by the same characters of the text, and by no others. -/
theorem mem_regularLiteral_iff {c : Char} (hc : c ∈ newLines) (s : String) :
    c ∈ (regularLiteral s).toList ↔ c ∈ s.toList ∧ breaksLine c = true := by
  have hquote : c ≠ '"' := by
    rintro rfl
    exact absurd hc (by decide)
  rw [regularLiteral, String.toList_ofList, List.cons_append, List.mem_cons, List.mem_append,
    List.mem_flatMap, List.mem_singleton]
  constructor
  · rintro (h | ⟨d, hd, hmem⟩ | h)
    · exact absurd h hquote
    · obtain ⟨rfl, hbreaks⟩ := (mem_escapeChar_iff hc d).mp hmem
      exact ⟨hd, hbreaks⟩
    · exact absurd h hquote
  · rintro ⟨hmem, hbreaks⟩
    exact Or.inr (Or.inl ⟨c, hmem, (mem_escapeChar_iff hc c).mpr ⟨rfl, hbreaks⟩⟩)

/-- Elements that are read one after the other are read up to where there is no other one.  The
induction is over the text, and the bound falls with each element. -/
theorem manyUpTo_elements {cs stop : List Char} (hcs : ∀ c ∈ cs, breaksLine c = false)
    (hstop : element? stop = none) (n : Nat) (hn : cs.length ≤ n) :
    Scan.manyUpTo element? n (cs.flatMap escapeChar ++ stop) =
      some (cs.map fun c => unitsOf c.toNat, stop) := by
  induction cs generalizing n with
  | nil =>
    cases n with
    | zero => rfl
    | succ n =>
      rw [List.flatMap_nil, List.nil_append, Scan.manyUpTo, hstop]
      rfl
  | cons c cs ih =>
    obtain ⟨hc, hcs⟩ := List.forall_mem_cons.mp hcs
    cases n with
    -- The fuel is at least the number of characters that are left.
    | zero => exact absurd hn (Nat.not_succ_le_zero _)
    | succ n =>
      rw [List.flatMap_cons, List.append_assoc, Scan.manyUpTo, element?_escapeChar hc]
      show Option.map _ (Scan.manyUpTo element? n (cs.flatMap escapeChar ++ stop)) = _
      rw [ih hcs n (Nat.le_of_succ_le_succ hn)]
      rfl

/-- Every character is written with at least one, so the length of the literal is bound enough. -/
theorem length_le_length_flatMap_escapeChar (cs : List Char) :
    cs.length ≤ (cs.flatMap escapeChar).length := by
  induction cs with
  | nil => exact Nat.zero_le _
  | cons c cs ih =>
    have hc : 1 ≤ (escapeChar c).length := by
      unfold escapeChar
      split <;> exact Nat.le_of_ble_eq_true rfl
    rw [List.flatMap_cons, List.length_append, List.length_cons]
    omega

/-- The same with the bound that the reader takes for itself. -/
theorem many_elements {cs stop : List Char} (hcs : ∀ c ∈ cs, breaksLine c = false)
    (hstop : element? stop = none) :
    Scan.many element? (cs.flatMap escapeChar ++ stop) =
      some (cs.map fun c => unitsOf c.toNat, stop) := by
  refine manyUpTo_elements hcs hstop _ ?_
  have hlength := length_le_length_flatMap_escapeChar cs
  rw [List.length_append]
  omega

/-- A literal in front of a rest, taken apart into quote, elements and quote. -/
theorem regularLiteral_append (s : String) (rest : List Char) :
    (regularLiteral s).toList ++ rest =
      ['"'] ++ (s.toList.flatMap escapeChar ++ '"' :: rest) := by
  rw [regularLiteral, String.toList_ofList, List.append_assoc]
  rfl

/-- A literal without a character that breaks a line is one of C#, and its value is its text in code
units. -/
theorem lexRegular?_of_unbroken {s : String} (h : ∀ c ∈ s.toList, breaksLine c = false)
    (rest : List Char) :
    lexRegular? ((regularLiteral s).toList ++ rest) = some (textUnits s, rest) := by
  rw [regularLiteral_append]
  refine (bind_of_some _ (word_append ['"'] _)).trans ?_
  refine (bind_of_some _ (many_elements h rfl)).trans ?_
  exact bind_of_some _ (word_append ['"'] rest)

/-- A text that has such a character is cut at the first one: what is in front of it is read, and
there the reader is stuck. -/
theorem lexRegular?_of_broken {s : String} (h : s.toList.any breaksLine = true)
    (rest : List Char) : lexRegular? ((regularLiteral s).toList ++ rest) = none := by
  -- the reader gets to the first character that breaks a line
  have hsome := List.find?_isSome.mpr (List.any_eq_true.mp h)
  obtain ⟨c, hfind⟩ := Option.isSome_iff_exists.mp hsome
  obtain ⟨hc, before, after, hsplit, hbefore⟩ := List.find?_eq_some_iff_append.mp hfind
  have hgood : ∀ d ∈ before, breaksLine d = false := by
    intro d hd
    have hd := hbefore d hd
    rwa [Bool.not_eq_true'] at hd
  obtain ⟨hescape, helement, hword⟩ :=
    escapeChar_of_breaksLine hc (after.flatMap escapeChar ++ '"' :: rest)
  have htext : s.toList.flatMap escapeChar ++ '"' :: rest =
      before.flatMap escapeChar ++ c :: (after.flatMap escapeChar ++ '"' :: rest) := by
    rw [hsplit, List.flatMap_append, List.flatMap_cons, hescape, List.append_assoc]
    rfl
  rw [regularLiteral_append]
  refine (bind_of_some _ (word_append ['"'] _)).trans ?_
  rw [htext]
  refine (bind_of_some _ (many_elements hgood helement)).trans ?_
  exact bind_of_none _ hword

/-- **A literal is one of C#, with the value of its text, unless the text has a character that ends
a line and is not escaped.** -/
theorem lexRegular?_append (s : String) (rest : List Char) :
    lexRegular? ((regularLiteral s).toList ++ rest) =
      if s.toList.any breaksLine then none else some (textUnits s, rest) := by
  by_cases hany : s.toList.any breaksLine = true
  · rw [if_pos hany, lexRegular?_of_broken hany]
  · have hunbroken : ∀ c ∈ s.toList, breaksLine c = false := by
      simpa only [Bool.not_eq_true, List.any_eq_false] using hany
    rw [if_neg hany, lexRegular?_of_unbroken hunbroken]

/-! ## Lines -/

/-- A line with a literal in it: what stands in front, the text of the literal, and what stands
behind. -/
structure QuotedLine where
  first : String
  text : String
  last : String

namespace QuotedLine

/-- The line itself. -/
def line (q : QuotedLine) : String :=
  q.first ++ (regularLiteral q.text ++ q.last)

/-- The line as C# reads it, from its first character to its last. -/
def lex? (q : QuotedLine) : Option (List Nat) :=
  (between q.first lexRegular? q.last).whole? q.line.toList

/-- The frame of a line does not change what C# makes of the literal in it: the line is read as a
whole exactly if the text has no character that breaks it. -/
theorem lex?_eq (q : QuotedLine) :
    q.lex? = if q.text.toList.any breaksLine then none else some (textUnits q.text) := by
  have hliteral := lexRegular?_append q.text q.last.toList
  unfold lex? Scan.whole? line
  -- The line around the literal is read as it stands, so the literal decides.
  by_cases hany : q.text.toList.any breaksLine = true
  · rw [if_pos hany] at hliteral ⊢
    have hline : between q.first lexRegular? q.last
        (q.first ++ (regularLiteral q.text ++ q.last)).toList = none := by
      rw [String.toList_append, String.toList_append]
      refine (bind_of_some _ (word_append q.first.toList _)).trans ?_
      exact bind_of_none _ hliteral
    rw [hline]
  · rw [if_neg hany] at hliteral ⊢
    rw [between_append hliteral]

end QuotedLine

/-- The line of an interval, with what comes behind its closing bracket. -/
def intervalLine (field literal last : String) : QuotedLine :=
  ⟨indent 5 (field ++ " = TimeSpan.Parse("), literal, ")" ++ last⟩

/-- The lines of the intervals of a policy. -/
def intervalLines : RetryPolicy → List QuotedLine
  | .none => []
  | .fixedDelay _ delay => [intervalLine "DelayInterval" delay ""]
  | .exponentialBackoff _ low high =>
    [intervalLine "MinimumInterval" low ",", intervalLine "MaximumInterval" high ""]

/-- The lines of a function with a text from the source of the user in a regular literal. -/
def quotedLines (r : FunctionRecord) : List QuotedLine :=
  ⟨indent 4 "Name = ", registeredName r.callSite r.name, ","⟩ :: intervalLines r.retry ++
    [⟨indent 4 "ScriptFile = ", r.scriptFile, ""⟩]

/-- The lines of the intervals are among those of the policy, so nothing is said about lines that do
not exist. -/
theorem line_mem_retryLines (p : RetryPolicy) : ∀ q ∈ intervalLines p, q.line ∈ retryLines p := by
  have hline (field literal last : String) : (intervalLine field literal last).line =
      indent 5 (intervalAssignment field literal ++ last) :=
    (intervalLine_eq field last literal).symm
  cases p with
  | none => exact List.forall_mem_nil _
  | fixedDelay count delay =>
    rw [intervalLines, List.forall_mem_singleton, hline, String.append_empty]
    simp [retryLines, maxRetryCount?, RetryPolicy.intervals, withCommas]
  | exponentialBackoff count low high =>
    rw [intervalLines, List.forall_mem_cons, List.forall_mem_singleton, hline, hline,
      String.append_empty]
    simp [retryLines, maxRetryCount?, RetryPolicy.intervals, withCommas]

/-- The same for all lines with a literal, among those of the function. -/
theorem line_mem_functionLines (r : FunctionRecord) :
    ∀ q ∈ quotedLines r, q.line ∈ functionLines r := by
  have hname : QuotedLine.line ⟨indent 4 "Name = ", registeredName r.callSite r.name, ","⟩ =
      indent 4 ("Name = " ++ nameLiteral r.callSite r.name ++ ",") :=
    (nameLine_eq r.callSite r.name).symm
  have hscript : QuotedLine.line ⟨indent 4 "ScriptFile = ", r.scriptFile, ""⟩ =
      indent 4 ("ScriptFile = " ++ regularLiteral r.scriptFile) :=
    (scriptFileLine_eq r.scriptFile).symm
  have hretry := line_mem_retryLines r.retry
  unfold quotedLines functionLines
  rw [List.cons_append, List.forall_mem_cons, List.forall_mem_append, List.forall_mem_singleton,
    hname, hscript]
  refine ⟨?_, fun q hq => ?_, ?_⟩
  · simp
  · exact List.mem_append_left _ (List.mem_append_right _ (hretry q hq))
  · exact List.mem_append_right _ List.mem_cons_self

/-! ## The whole of it -/

/-- **The literals of a provider are those of C#, unless a character that ends a line is left in
them.**  Undoing the escapes of a literal always gives its text, and the characters that end a line
are escaped, but for those that `breaksLine` tells; a literal whose text has one of these is none of
C#, and any other is one with the value of its text.  The same goes for the lines of each function
with a name, an interval or a script file. -/
theorem regularLiteral_lexes_unless_broken (s : String) (r : FunctionRecord) :
    (regular? (regularLiteral s).toList = some (s, []) ∧
      (∀ c ∈ newLines, c ∈ (regularLiteral s).toList ↔ c ∈ s.toList ∧ breaksLine c = true) ∧
      lexRegular? (regularLiteral s).toList =
        if s.toList.any breaksLine then none else some (textUnits s, [])) ∧
    ∀ q ∈ quotedLines r, q.line ∈ functionLines r ∧
      q.lex? = if q.text.toList.any breaksLine then none else some (textUnits q.text) := by
  refine ⟨⟨?_, fun c hc => mem_regularLiteral_iff hc s, ?_⟩,
    fun q hq => ⟨line_mem_functionLines r q hq, q.lex?_eq⟩⟩
  · have hread := regular?_append s []
    rwa [List.append_nil] at hread
  · have hlex := lexRegular?_append s []
    rwa [List.append_nil] at hlex

/-- A line separator is left in the literal as it is, where C# would want an escape. -/
theorem regularLiteral_broken_by_separator :
    '\u2028' ∈ newLines ∧ regularLiteral "a\u2028b" = "\"a\u2028b\"" ∧
      lexRegular? (regularLiteral "a\u2028b").toList = none ∧
      lexRegular? "\"a\\u2028b\"".toList = some (textUnits "a\u2028b", []) := by
  decide

end RouteIndex.Provider
