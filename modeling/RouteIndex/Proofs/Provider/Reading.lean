/-
  The source of a provider, read back.

  Texts that are pasted into a program may change what the program says.  Those of a provider cannot:
  a reader that knows the frame of the file and the two kinds of literals gets all of them back.

  1. **What is read** — an `Entry` for each function, and the `Content` of the file around them.
  2. **Readers** — the file is a list of lines, so its readers take lines from the front of a list:
     `these` takes given lines, `framed` takes one line and reads what stands between its given
     beginning and its given end, `many` repeats a reader until it fails.
  3. **Inverses** — one law for each reader: in front of any other lines it reads the lines that were
     written for a value, gives the value, and leaves the other lines.  Where a reader has to stop
     (`many`) or to go another way (`<|>`), the next line begins with another character.
  4. **The whole** — `render_reads_back`, for every list of records.
-/

import RouteIndex.Proofs.Provider.Lines
import RouteIndex.Proofs.Provider.Render
import RouteIndex.Proofs.RetryText

namespace RouteIndex.Provider

open Text (Scan)

/-! ## What is read -/

/-- What the file says about one function. -/
structure Entry where
  callSite : Nat
  name : String
  bindings : List Binding
  retry : RetryPolicy
  scriptFile : String
  deriving DecidableEq, Repr

/-- What the file says. -/
structure Content where
  nameSpace : String
  autoRegister : Bool
  /-- The functions in the order of the file. -/
  entries : List Entry
  deriving DecidableEq, Repr

/-- What the file has to say about the function of a record.  Its name is the route without slashes,
or else the word `Function` in front of the number of the call site. -/
def Entry.ofRecord (r : FunctionRecord) : Entry where
  callSite := r.callSite
  name :=
    match r.name with
    | some route => String.ofList (route.toList.filter (· ≠ '/'))
    | none => "Function" ++ toString r.callSite
  bindings := r.bindings
  retry := r.retry
  scriptFile := r.scriptFile

/-! ## Readers of lines -/

/-- A reader of the front of a list of lines. -/
abbrev LineScan (α : Type) : Type :=
  StateT (List String) Option α

/-- The given lines. -/
def these : List String → LineScan Unit
  | [], ls => some ((), ls)
  | s :: ss, l :: ls => if l = s then these ss ls else none
  | _ :: _, [] => none

/-- What stands between the given beginning and the given end of a line. -/
def between {α : Type} (first : String) (p : Scan α) (last : String) : Scan α := do
  Scan.word first.toList
  let a ← p
  Scan.word last.toList
  return a

/-- One line with a given beginning and a given end. -/
def framed {α : Type} (first : String) (p : Scan α) (last : String) : LineScan α
  | l :: ls => ((between first p last).whole? l.toList).map fun a => (a, ls)
  | [] => none

/-- Repeats a reader until it fails, but at most so many times. -/
def manyUpTo {α : Type} (p : LineScan α) : Nat → LineScan (List α)
  | 0, ls => some ([], ls)
  | n + 1, ls =>
    match p ls with
    | some (a, rest) => (manyUpTo p n rest).map fun (as, rest) => (a :: as, rest)
    | none => some ([], ls)

/-- Repeats a reader until it fails; each time it takes at least one line. -/
def many {α : Type} (p : LineScan α) : LineScan (List α) :=
  fun ls => manyUpTo p ls.length ls

/-! ## Readers of the file -/

/-- The digits of a number. -/
def number? : Scan Nat :=
  fun cs => (Text.readNumber? (cs.takeWhile Char.isDigit)).map fun n => (n, cs.dropWhile Char.isDigit)

/-- A signed number of thirty-two bits, up to a comma. -/
def count? : Scan Int32 :=
  fun cs => ((Text.readInteger? (cs.takeWhile (· ≠ ','))).bind fun i =>
    RetryPolicy.count? (.int i)).map fun count => (count, cs.dropWhile (· ≠ ','))

/-- All that is left of the line. -/
def remainder : Scan String :=
  fun cs => some (String.ofList cs, [])

/-- The line that begins a function, with the position of its call site. -/
def opening? : LineScan Nat :=
  framed (indent 3 "var Function") number? "RawBindings = new List<string>();"

/-- The line that adds a binding. -/
def binding? (callSite : Nat) : LineScan Binding := do
  let text ← framed (indent 3 (bindingsVariable callSite ++ ".Add(")) verbatim? ");"
  StateT.lift (Binding.ofText? text)

/-- The line of an interval, up to what comes behind its closing bracket. -/
def interval? (field last : String) : LineScan String :=
  framed (indent 5 (field ++ " = TimeSpan.Parse(")) regular? (")" ++ last)

/-- The line of a retry count. -/
def countLine (count : Int32) : String :=
  indent 5 ("MaxRetryCount = " ++ String.ofList (Text.integerDigits count.toInt) ++ ",")

/-- The count of that line. -/
def maxRetryCountLine? : LineScan Int32 :=
  framed (indent 5 "MaxRetryCount = ") count? ","

/-- The fields of a policy with one interval. -/
def fixedDelay? : LineScan RetryPolicy := do
  let count ← maxRetryCountLine?
  let delay ← interval? "DelayInterval" ""
  return .fixedDelay count delay

/-- The fields of a policy with two intervals. -/
def exponentialBackoff? : LineScan RetryPolicy := do
  let count ← maxRetryCountLine?
  let low ← interval? "MinimumInterval" ","
  let high ← interval? "MaximumInterval" ""
  return .exponentialBackoff count low high

/-- The lines of a retry policy, if there are any. -/
def retry? : LineScan RetryPolicy :=
  (do
    these [indent 4 "Retry = new DefaultRetryOptions", indent 4 "\x7b"]
    let p ← fixedDelay? <|> exponentialBackoff?
    these [indent 4 "\x7d,"]
    return p) <|> pure .none

/-- The line that begins the declaration of a function. -/
def declarationLine (callSite : Nat) : String :=
  indent 3 ("var " ++ functionVariable callSite ++ " = new DefaultFunctionMetadata")

/-- The lines of a function. -/
def entry? : LineScan Entry := do
  let callSite ← opening?
  let bindings ← many (binding? callSite)
  these [declarationLine callSite, indent 3 "\x7b",
    indent 4 ("Language = \"" ++ FunctionRecord.workerLanguage ++ "\",")]
  let name ← framed (indent 4 "Name = ") regular? ","
  these [indent 4 ("EntryPoint = \"" ++ FunctionRecord.webEntryPoint ++ "\","),
    indent 4 ("RawBindings = " ++ bindingsVariable callSite ++ ",")]
  let retry ← retry?
  let scriptFile ← framed (indent 4 "ScriptFile = ") regular? ""
  these [indent 3 "\x7d;", indent 3 ("metadataList.Add(" ++ functionVariable callSite ++ ");")]
  return ⟨callSite, name, bindings, retry, scriptFile⟩

/-- The lines of the file. -/
def content? : LineScan Content := do
  these headerLines
  let nameSpace ← framed "namespace " remainder ""
  these ("\x7b" :: providerOpening)
  let entries ← many entry?
  these (providerClosing ++ "" :: extensionLines)
  let autoRegister ← (these ("" :: startupLines) *> pure true) <|> pure false
  these ["\x7d", ""]
  return ⟨nameSpace, autoRegister, entries⟩

/-- Reads the text of a file. -/
def Content.ofText? (text : String) : Option Content :=
  match content? (fileLines text) with
  | some (content, []) => some content
  | _ => none

/-! ## Laws of reading -/

section

variable {σ α β : Type}

/-- A reader that succeeds hands its value and the rest to the next one. -/
theorem bind_of_some {p : StateT σ Option α} (f : α → StateT σ Option β) {s s' : σ} {a : α}
    (h : p s = some (a, s')) : (p >>= f) s = f a s' := by
  show (p s).bind _ = _
  rw [h]
  rfl

/-- A reader that fails ends those behind it. -/
theorem bind_of_none {p : StateT σ Option α} (f : α → StateT σ Option β) {s : σ}
    (h : p s = none) : (p >>= f) s = none := by
  show (p s).bind _ = _
  rw [h]
  rfl

/-- The first alternative that succeeds is taken. -/
theorem orElse_of_some {p : StateT σ Option α} (q : StateT σ Option α) {s s' : σ} {a : α}
    (h : p s = some (a, s')) : (p <|> q) s = some (a, s') := by
  show (p s <|> q s) = _
  rw [h]
  rfl

/-- If the first one fails, the other one starts where it has started. -/
theorem orElse_of_none {p : StateT σ Option α} (q : StateT σ Option α) {s : σ} (h : p s = none) :
    (p <|> q) s = q s := by
  show (p s <|> q s) = _
  rw [h]
  rfl

/-- A value that was read elsewhere takes nothing from the lines. -/
theorem lift_of_some {o : Option α} {a : α} (h : o = some a) (s : σ) :
    (StateT.lift o : StateT σ Option α) s = some (a, s) := by
  rw [h]
  rfl

/-- What two texts have in common in front does not matter: a word is looked for behind it. -/
theorem word_append_append (w v rest : List Char) :
    Scan.word (w ++ v) (w ++ rest) = Scan.word v rest := by
  induction w with
  | nil => rfl
  | cons c w ih =>
    show (if c = c then _ else _) = _
    rw [if_pos rfl]
    exact ih

/-- A word is read off the front of a text that begins with it, and what follows is left. -/
theorem word_append (w rest : List Char) : Scan.word w (w ++ rest) = some ((), rest) := by
  have hempty := word_append_append w [] rest
  rwa [List.append_nil] at hempty

/-- Given lines are taken from the front of a list that begins with them, one by one. -/
theorem these_append (ss rest : List String) : these ss (ss ++ rest) = some ((), rest) := by
  induction ss with
  | nil => rfl
  | cons s ss ih =>
    show (if s = s then _ else _) = _
    rw [if_pos rfl]
    exact ih

/-- A reader between two words reads what stands between them: each of the three takes its part of
the line, and the last word ends it. -/
theorem between_append {p : Scan α} {first text last : String} {a : α}
    (h : p (text.toList ++ last.toList) = some (a, last.toList)) :
    between first p last (first ++ (text ++ last)).toList = some (a, []) := by
  have hend : Scan.word last.toList last.toList = some ((), []) := by
    have happend := word_append last.toList []
    rw [List.append_nil] at happend
    exact happend
  rw [String.toList_append, String.toList_append]
  refine (bind_of_some _ (word_append first.toList _)).trans ?_
  refine (bind_of_some _ h).trans ?_
  exact bind_of_some _ hend

/-- **A line in its frame is read**, if the reader of the middle stops where the end of the frame
begins.  Almost every line of a provider is read by this law. -/
theorem framed_cons {p : Scan α} {first text last : String} {a : α}
    (h : p (text.toList ++ last.toList) = some (a, last.toList)) (ls : List String) :
    framed first p last ((first ++ (text ++ last)) :: ls) = some (a, ls) := by
  rw [framed, Scan.whole?, between_append h]
  rfl

/-- A line that begins otherwise is not read, and no line is taken.  This is what makes a repetition
stop. -/
theorem framed_none {p : Scan α} {first last l : String}
    (h : Scan.word first.toList l.toList = none) (ls : List String) :
    framed first p last (l :: ls) = none := by
  have hbetween : between first p last l.toList = none := bind_of_none _ h
  rw [framed, Scan.whole?, hbetween]
  rfl

/-- Lines that are indented alike are told apart behind the indentation. -/
theorem word_indent (steps : Nat) (s t : String) :
    Scan.word (indent steps s).toList (indent steps t).toList = Scan.word s.toList t.toList := by
  rw [indent, indent, String.toList_append, String.toList_append, word_append_append]

/-- A reader that reads the lines of each value reads the lines of a list of values, by induction
over the values; it stops at lines that are read as none. -/
theorem manyUpTo_append {p : LineScan β} {print : α → List String} {value : α → β}
    {tail : List String} (htail : p tail = none) : ∀ {as : List α},
    (∀ a ∈ as, ∀ rest, p (print a ++ rest) = some (value a, rest)) → ∀ n, as.length ≤ n →
    manyUpTo p n (as.flatMap print ++ tail) = some (as.map value, tail)
  | [], _, 0, _ => rfl
  | [], _, n + 1, _ => by
    show (match p tail with | some (a, rest) => _ | none => _) = _
    rw [htail]
    rfl
  | a :: as, hp, n + 1, hn => by
    have ih := manyUpTo_append htail (fun b hb => hp b (List.mem_cons_of_mem a hb)) n
      (Nat.le_of_succ_le_succ hn)
    rw [List.flatMap_cons, List.append_assoc, manyUpTo, hp a List.mem_cons_self]
    show Option.map _ (manyUpTo p n (as.flatMap print ++ tail)) = _
    rw [ih]
    rfl

/-- The same for the bound that `many` takes for itself: each value has at least one line, so the
number of lines is bound enough. -/
theorem many_append {p : LineScan β} {print : α → List String} {value : α → β} {as : List α}
    {tail : List String} (hp : ∀ a ∈ as, ∀ rest, p (print a ++ rest) = some (value a, rest))
    (hprint : ∀ a ∈ as, print a ≠ []) (htail : p tail = none) :
    many p (as.flatMap print ++ tail) = some (as.map value, tail) := by
  refine manyUpTo_append htail hp _ ?_
  have hlength : as.length ≤ (as.flatMap print).length := by
    clear hp
    induction as with
    | nil => exact Nat.zero_le _
    | cons a as ih =>
      have ha := List.length_pos_iff.mpr (hprint a List.mem_cons_self)
      have has := ih fun b hb => hprint b (List.mem_cons_of_mem a hb)
      rw [List.flatMap_cons, List.length_append, List.length_cons]
      omega
  rw [List.length_append]
  omega

end

/-! ## Laws of the file -/

/-- The digits of a number are read up to the first character that is none. -/
theorem number?_append (n : Nat) {rest : List Char} (h : ∀ c ∈ rest.head?, c.isDigit = false) :
    number? ((number n).toList ++ rest) = some (n, rest) := by
  rw [number, String.toList_ofList, number?, Text.takeWhile_digitsOf_append n h,
    Text.dropWhile_digitsOf_append n h, Text.readNumber?_digitsOf]
  rfl

/-- The line that begins a function.  The digits of its position stand inside the name of a
variable; the letter behind them ends them. -/
theorem opening?_cons (n : Nat) (ls : List String) :
    opening? (indent 3 ("var " ++ bindingsVariable n ++ " = new List<string>();") :: ls) =
      some (n, ls) := by
  have hfirst : "var Function" = "var " ++ "Function" := by decide
  have hlast : "RawBindings = new List<string>();" = "RawBindings" ++ " = new List<string>();" := by
    decide
  have hline : indent 3 ("var " ++ bindingsVariable n ++ " = new List<string>();") =
      indent 3 "var Function" ++ (number n ++ "RawBindings = new List<string>();") := by
    rw [hfirst, hlast]
    simp only [indent, bindingsVariable, String.append_assoc]
  -- The number ends at the first letter behind it.
  have hletter : ∀ c ∈ "RawBindings = new List<string>();".toList.head?, c.isDigit = false := by
    intro c hc
    obtain rfl : 'R' = c := Option.some.inj hc
    rfl
  rw [hline]
  exact framed_cons (number?_append n hletter) ls

/-- The line of a binding: the literal is undone first, and then the text is read as JSON. -/
theorem binding?_cons (n : Nat) (b : Binding) (ls : List String) :
    binding? n (bindingLine n b :: ls) = some (b, ls) := by
  have hline : bindingLine n b =
      indent 3 (bindingsVariable n ++ ".Add(") ++ (verbatimLiteral b.text ++ ");") := by
    simp only [bindingLine, indent, String.append_assoc]
  rw [hline]
  refine (bind_of_some _ (framed_cons (verbatim?_append b.text (by decide)) ls)).trans ?_
  exact lift_of_some b.ofText?_text ls

/-- The line of an interval, with its literal in a frame. -/
theorem intervalLine_eq (field last literal : String) :
    indent 5 (intervalAssignment field literal ++ last) =
      indent 5 (field ++ " = TimeSpan.Parse(") ++ (regularLiteral literal ++ (")" ++ last)) := by
  simp only [intervalAssignment, indent, String.append_assoc]

/-- The line of an interval gives its literal, with or without a comma at the end. -/
theorem interval?_cons (field last literal : String) (ls : List String) :
    interval? field last (indent 5 (intervalAssignment field literal ++ last) :: ls) =
      some (literal, ls) := by
  rw [intervalLine_eq]
  exact framed_cons (regular?_append literal _) ls

/-- A count is read up to the comma.  The integer that is written has thirty-two bits, so the reader
does not refuse it. -/
theorem count?_append (count : Int32) :
    count? ((String.ofList (Text.integerDigits count.toInt)).toList ++ ",".toList) =
      some (count, ",".toList) := by
  -- A count has no comma, so the comma behind it ends it.
  have hdigits : ∀ c ∈ Text.integerDigits count.toInt, decide (c ≠ ',') = true := by
    intro c hc
    rw [decide_eq_true_eq]
    rintro rfl
    rcases Text.minus_or_isDigit_of_mem_integerDigits hc with h | h
    · exact absurd h (by decide)
    · exact absurd h (by decide)
  have hread : (Text.readInteger? (Text.integerDigits count.toInt)).bind
      (fun i => RetryPolicy.count? (.int i)) = some count := by
    rw [Text.readInteger?_integerDigits]
    exact RetryPolicy.count?_countJson count
  have htake : (Text.integerDigits count.toInt ++ ",".toList).takeWhile (· ≠ ',') =
      Text.integerDigits count.toInt := by
    rw [List.takeWhile_append_of_pos hdigits]
    exact List.append_nil _
  have hdrop : (Text.integerDigits count.toInt ++ ",".toList).dropWhile (· ≠ ',') = ",".toList := by
    rw [List.dropWhile_append_of_pos hdigits]
    rfl
  rw [String.toList_ofList, count?, htake, hdrop, hread]
  rfl

/-- The line of a count gives the count. -/
theorem maxRetryCountLine?_cons (count : Int32) (ls : List String) :
    maxRetryCountLine? (countLine count :: ls) = some (count, ls) := by
  have hline : countLine count =
      indent 5 "MaxRetryCount = " ++ (String.ofList (Text.integerDigits count.toInt) ++ ",") := by
    simp only [countLine, indent, String.append_assoc]
  rw [hline]
  exact framed_cons (count?_append count) ls

/-- The fields of a policy with one interval are read in their order. -/
theorem fixedDelay?_append (count : Int32) (delay : String) (ls : List String) :
    fixedDelay? (countLine count :: indent 5 (intervalAssignment "DelayInterval" delay) :: ls) =
      some (.fixedDelay count delay, ls) := by
  have hdelay := interval?_cons "DelayInterval" "" delay ls
  rw [String.append_empty] at hdelay
  refine (bind_of_some _ (maxRetryCountLine?_cons count _)).trans ?_
  exact bind_of_some _ hdelay

/-- Two fields with different names are told apart by their first characters, so a policy with two
intervals is not read as one with a single one. -/
theorem fixedDelay?_none (count : Int32) (low : String) (ls : List String) :
    fixedDelay? (countLine count :: indent 5 (intervalAssignment "MinimumInterval" low ++ ",") ::
      ls) = none := by
  refine (bind_of_some _ (maxRetryCountLine?_cons count _)).trans ?_
  refine bind_of_none _ (framed_none ?_ ls)
  rw [word_indent]
  simp only [intervalAssignment, String.toList_append, List.append_assoc]
  rfl

/-- So are the fields of a policy with two intervals, the shorter one first. -/
theorem exponentialBackoff?_append (count : Int32) (low high : String) (ls : List String) :
    exponentialBackoff? (countLine count ::
      indent 5 (intervalAssignment "MinimumInterval" low ++ ",") ::
      indent 5 (intervalAssignment "MaximumInterval" high) :: ls) =
      some (.exponentialBackoff count low high, ls) := by
  have hhigh := interval?_cons "MaximumInterval" "" high ls
  rw [String.append_empty] at hhigh
  refine (bind_of_some _ (maxRetryCountLine?_cons count _)).trans ?_
  refine (bind_of_some _ (interval?_cons "MinimumInterval" "," low _)).trans ?_
  exact bind_of_some _ hhigh

/-- **The lines of a policy are read back**, where they are not followed by another policy.  Without
a policy there are no lines, and the line behind is that of the script file. -/
theorem retry?_append (p : RetryPolicy) (script : String) (ls : List String) :
    retry? (retryLines p ++ indent 4 ("ScriptFile = " ++ script) :: ls) =
      some (p, indent 4 ("ScriptFile = " ++ script) :: ls) := by
  cases p with
  | none =>
    -- Without a policy the next line is the script file, which differs in its first letter.
    have hline : indent 4 ("ScriptFile = " ++ script) ≠
        indent 4 "Retry = new DefaultRetryOptions" := by
      intro h
      have hlist := congrArg String.toList h
      rw [indent, indent, String.toList_append, String.toList_append, String.toList_append] at hlist
      exact absurd (List.cons.inj (List.append_cancel_left hlist)).1 (by decide)
    refine orElse_of_none _ (bind_of_none _ ?_)
    exact if_neg hline
  | fixedDelay count delay =>
    refine orElse_of_some _ ((bind_of_some _ (these_append [_, _] _)).trans ?_)
    refine (bind_of_some _ (orElse_of_some _ (fixedDelay?_append count delay _))).trans ?_
    exact bind_of_some _ (these_append [_] _)
  | exponentialBackoff count low high =>
    refine orElse_of_some _ ((bind_of_some _ (these_append [_, _] _)).trans ?_)
    refine (bind_of_some _ ((orElse_of_none _ (fixedDelay?_none count low _)).trans
      (exponentialBackoff?_append count low high _))).trans ?_
    exact bind_of_some _ (these_append [_] _)

/-- The lines of the bindings are read up to the declaration of the function, which begins with
another word. -/
theorem bindings?_append (n : Nat) (bindings : List Binding) (ls : List String) :
    many (binding? n) (bindings.map (bindingLine n) ++ declarationLine n :: ls) =
      some (bindings, declarationLine n :: ls) := by
  have hstop : binding? n (declarationLine n :: ls) = none := by
    -- the line goes on with `var`, not with the name of the variable
    refine bind_of_none _ (framed_none ?_ ls)
    rw [declarationLine, word_indent]
    simp only [bindingsVariable, String.toList_append, List.append_assoc]
    rfl
  have hmany : many (binding? n)
      (bindings.flatMap (fun b => [bindingLine n b]) ++ declarationLine n :: ls) =
      some (bindings.map id, declarationLine n :: ls) :=
    many_append (fun b _ rest => binding?_cons n b rest) (fun b _ => List.cons_ne_nil _ _) hstop
  rw [List.map_id, ← List.map_eq_flatMap] at hmany
  exact hmany

/-- The name that the file is to have, case by case, is the one that functions are registered
under. -/
theorem registeredName_eq (r : FunctionRecord) :
    registeredName r.callSite r.name = (Entry.ofRecord r).name := by
  rw [Entry.ofRecord]
  cases r.name with
  | some route => rfl
  | none => rfl

/-- The line of a name, with its literal in a frame. -/
theorem nameLine_eq (callSite : Nat) (name : Option String) :
    indent 4 ("Name = " ++ nameLiteral callSite name ++ ",") =
      indent 4 "Name = " ++ (regularLiteral (registeredName callSite name) ++ ",") := by
  simp only [nameLiteral, indent, String.append_assoc]

/-- The line of a script file, with its literal in a frame. -/
theorem scriptFileLine_eq (script : String) :
    indent 4 ("ScriptFile = " ++ regularLiteral script) =
      indent 4 "ScriptFile = " ++ (regularLiteral script ++ "") := by
  simp only [indent, String.append_assoc, String.append_empty]

/-- **The lines of a function are read back**, whatever comes after them.  There is one law for each
piece of the lines, in their order. -/
theorem entry?_append {r : FunctionRecord} (hlanguage : r.language = FunctionRecord.workerLanguage)
    (hentry : r.entryPoint = FunctionRecord.webEntryPoint) (ls : List String) :
    entry? (functionLines r ++ ls) = some (Entry.ofRecord r, ls) := by
  have hname (ls : List String) : framed (indent 4 "Name = ") regular? ","
      (indent 4 ("Name = " ++ nameLiteral r.callSite r.name ++ ",") :: ls) =
      some ((Entry.ofRecord r).name, ls) := by
    rw [nameLine_eq, registeredName_eq]
    exact framed_cons (regular?_append _ _) ls
  have hscript (ls : List String) : framed (indent 4 "ScriptFile = ") regular? ""
      (indent 4 ("ScriptFile = " ++ regularLiteral r.scriptFile) :: ls) =
      some (r.scriptFile, ls) := by
    rw [scriptFileLine_eq]
    exact framed_cons (regular?_append _ _) ls
  unfold functionLines
  rw [hlanguage, hentry]
  simp only [List.append_assoc, List.cons_append, List.nil_append]
  -- one law for each piece, in the order of the lines
  refine (bind_of_some _ (opening?_cons r.callSite _)).trans ?_
  refine (bind_of_some _ (bindings?_append r.callSite r.bindings _)).trans ?_
  refine (bind_of_some _ (these_append [_, _, _] _)).trans ?_
  refine (bind_of_some _ (hname _)).trans ?_
  refine (bind_of_some _ (these_append [_, _] _)).trans ?_
  refine (bind_of_some _ (retry?_append r.retry _ _)).trans ?_
  refine (bind_of_some _ (hscript _)).trans ?_
  exact bind_of_some _ (these_append [_, _] _)

/-- The lines of all functions are read back, up to the end of the method.  What follows them begins
with the line that returns, which is no opening of a function, so the repetition stops there. -/
theorem entries?_append {records : List FunctionRecord}
    (hrecords : ∀ r ∈ records, r.language = FunctionRecord.workerLanguage ∧
      r.entryPoint = FunctionRecord.webEntryPoint) (ls : List String) :
    many entry? (records.flatMap functionLines ++ (providerClosing ++ ls)) =
      some (records.map Entry.ofRecord, providerClosing ++ ls) := by
  have hstop : entry? (providerClosing ++ ls) = none := by
    -- the method ends with a line that begins with `return`
    refine bind_of_none _ (framed_none ?_ _)
    rw [word_indent]
    rfl
  refine many_append (fun r hr rest => ?_) (fun r _ => ?_) hstop
  · exact entry?_append (hrecords r hr).1 (hrecords r hr).2 rest
  · exact List.append_ne_nil_of_left_ne_nil (List.append_ne_nil_of_left_ne_nil
      (List.append_ne_nil_of_left_ne_nil (List.cons_ne_nil _ _) _) _) _

/-- The end of the file says whether there is a start-up class: either its lines are there, or the
last brace. -/
theorem autoRegister?_append (autoRegister : Bool) :
    ((these ("" :: startupLines) *> pure true) <|> pure false : LineScan Bool)
      ((if autoRegister then "" :: startupLines else []) ++ ["\x7d", ""]) =
      some (autoRegister, ["\x7d", ""]) := by
  cases autoRegister with
  | false =>
    have hbrace : "\x7d" ≠ "" := by decide
    have hthese : these ("" :: startupLines) ["\x7d", ""] = none := if_neg hbrace
    refine orElse_of_none _ ?_
    rw [seqRight_eq_bind]
    exact bind_of_none _ hthese
  | true =>
    refine orElse_of_some _ ?_
    rw [seqRight_eq_bind]
    exact bind_of_some _ (these_append ("" :: startupLines) _)

/-- **The lines of the file are read back.** The namespace is the only text without a frame at its
end; it goes to the end of its line. -/
theorem content?_lines (options : Options) {records : List FunctionRecord}
    (hrecords : ∀ r ∈ records, r.language = FunctionRecord.workerLanguage ∧
      r.entryPoint = FunctionRecord.webEntryPoint) :
    content? (lines options records ++ [""]) =
      some (⟨options.nameSpace, options.autoRegister, records.map Entry.ofRecord⟩, []) := by
  have hnameSpace (ls : List String) : framed "namespace " remainder ""
      (("namespace " ++ options.nameSpace) :: ls) = some (options.nameSpace, ls) := by
    have hread : remainder (options.nameSpace.toList ++ "".toList) =
        some (options.nameSpace, "".toList) := by
      show some (String.ofList (options.nameSpace.toList ++ []), _) = _
      rw [List.append_nil, String.ofList_toList]
      rfl
    have hframed : framed "namespace " remainder ""
        (("namespace " ++ (options.nameSpace ++ "")) :: ls) = some (options.nameSpace, ls) :=
      framed_cons hread ls
    rw [String.append_empty] at hframed
    exact hframed
  -- The pieces of the file one after the other, each read by its own lemma.
  unfold lines
  simp only [List.append_assoc, List.cons_append, List.nil_append]
  refine (bind_of_some _ (these_append headerLines _)).trans ?_
  refine (bind_of_some _ (hnameSpace _)).trans ?_
  refine (bind_of_some _ (these_append ("\x7b" :: providerOpening) _)).trans ?_
  refine (bind_of_some _ (entries?_append hrecords _)).trans ?_
  rw [← List.cons_append, ← List.append_assoc]
  refine (bind_of_some _ (these_append (providerClosing ++ "" :: extensionLines) _)).trans ?_
  refine (bind_of_some _ (autoRegister?_append options.autoRegister)).trans ?_
  exact bind_of_some _ (these_append ["\x7d", ""] [])

/-! ## The whole -/

/-- **What is pasted into a provider is read back from it**: the namespace, the switch, and for each
record in order its position, the name it is registered under, its bindings, its whole retry policy and
its script file.  So no text of a user can put a statement into the file, take one out or cut one in
two. -/
theorem render_reads_back (options : Options) (records : List FunctionRecord)
    (hnameSpace : '\n' ∉ options.nameSpace.toList)
    (hrecords : ∀ r ∈ records, r.language = FunctionRecord.workerLanguage ∧
      r.entryPoint = FunctionRecord.webEntryPoint)
    (w : Watch) (hw : w.IsQuiet) :
    ∃ text w', (render options records).run w = (.ok text, w') ∧
      Content.ofText? text =
        some ⟨options.nameSpace, options.autoRegister, records.map Entry.ofRecord⟩ := by
  have hlanguage : OneLine FunctionRecord.workerLanguage := oneLine_ofList (by decide)
  have hentry : OneLine FunctionRecord.webEntryPoint := oneLine_ofList (by decide)
  have hlines : fileLines (source options records) = lines options records ++ [""] := by
    refine fileLines_source hnameSpace fun r hr => ?_
    rw [(hrecords r hr).1, (hrecords r hr).2]
    exact ⟨hlanguage, hentry⟩
  refine ⟨source options records, _, (render_does options records).run_of_live (hw.live_after _), ?_⟩
  rw [Content.ofText?, hlines, content?_lines options hrecords]

/-- A record whose texts look like the end of a statement is read back as one entry, and a record
without a route behind it under the name of its variable. -/
theorem render_reads_back_of_quotes :
    '\n' ∉ "Shop.Api".toList ∧ Watch.live.IsQuiet ∧
    ∃ text w', (render ⟨"Shop.Api", true⟩
      [.http 4 (some "a/\");\n\x7d;") "api" [Binding.response] (.fixedDelay (-1) "\\\""),
        .http 5 none "api" [] .none]).run Watch.live = (.ok text, w') ∧
      Content.ofText? text = some ⟨"Shop.Api", true,
        [⟨4, "a\");\n\x7d;", [Binding.response], .fixedDelay (-1) "\\\"", "api.dll"⟩,
          ⟨5, "Function5", [], .none, "api.dll"⟩]⟩ := by
  have hnameSpace : '\n' ∉ "Shop.Api".toList := by decide
  have hquiet : Watch.live.IsQuiet := ⟨rfl, fun _ => rfl⟩
  refine ⟨hnameSpace, hquiet, ?_⟩
  refine render_reads_back ⟨"Shop.Api", true⟩ _ hnameSpace (fun r hr => ?_) Watch.live hquiet
  rcases List.mem_cons.mp hr with rfl | hr
  · exact ⟨rfl, rfl⟩
  · obtain rfl := List.mem_singleton.mp hr
    exact ⟨rfl, rfl⟩

end RouteIndex.Provider
