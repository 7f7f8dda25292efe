/-
  The statements of the method that gives the host its records.

  1. **Lines** — the body of the method is cut out of the file: the lines behind the last one that
     opens the method, up to its closing brace.  Whatever namespace is pasted in front, these are the
     lines that were written for the list and for the records (`methodLines_source`).
  2. **Statements** — a method without branches and loops is a list of statements, each up to its
     semicolon.  Those of this method declare a variable, add to a list, or give back a value (`Step`).
  3. **The whole** — read as tokens, the lines are the statements `methodSteps`
     (**`methodSteps?_source`**): for each record its own ones, in the order of the records.
-/

import RouteIndex.Proofs.Provider.Tokens

namespace RouteIndex.Provider

/-! ## Lines -/

/-- The line that opens the method. -/
def methodHeader : String :=
  indent 2 "public Task<ImmutableArray<IFunctionMetadata>> GetFunctionMetadataAsync(string directory)"

/-- The lines between the braces of the method.  The name of the namespace may be any text; therefore
the method is looked for from the end of the file. -/
def methodLines (text : String) : List String :=
  let behind := ((fileLines text).reverse.takeWhile (· ≠ methodHeader)).reverse
  (behind.drop 1).takeWhile (· ≠ indent 2 "\x7d")

/-- The line that declares the list of the method. -/
def listLine : String :=
  indent 3 "var metadataList = new List<IFunctionMetadata>();"

/-- The line that gives the list back. -/
def returnLine : String :=
  indent 3 "return Task.FromResult(metadataList.ToImmutableArray());"

/-- The lines of the file in front of the one that opens the method. -/
def linesBefore (options : Options) : List String :=
  headerLines ++ ["namespace " ++ options.nameSpace, "\x7b"] ++ providerOpening.take 8

/-- The lines between the braces. -/
def bodyLines (records : List FunctionRecord) : List String :=
  listLine :: records.flatMap functionLines ++ [returnLine]

/-- The lines of the file behind the one that closes the method. -/
def linesBehind (autoRegister : Bool) : List String :=
  indent 1 "\x7d" :: "" :: extensionLines ++
    (if autoRegister then "" :: startupLines else []) ++ ["\x7d"]

/-- The lines of the file from the one that opens the method on. -/
def linesFromMethod (autoRegister : Bool) (records : List FunctionRecord) : List String :=
  methodHeader :: indent 2 "\x7b" :: bodyLines records ++ indent 2 "\x7d" :: linesBehind autoRegister

variable (options : Options) (records : List FunctionRecord)

/-- The file, cut where the method is opened.  What stands in front of it is the only part that
depends on the namespace. -/
theorem lines_eq : lines options records =
    linesBefore options ++ linesFromMethod options.autoRegister records := by
  have hopening : providerOpening = providerOpening.take 8 ++
      [methodHeader, indent 2 "\x7b", listLine] := rfl
  have hclosing : providerClosing = [returnLine, indent 2 "\x7d", indent 1 "\x7d"] := rfl
  rw [lines, hclosing, linesBefore, linesFromMethod, linesBehind, bodyLines]
  conv => lhs; rw [hopening]
  simp only [List.append_assoc, List.cons_append, List.nil_append]

/-! ### Cutting the file -/

/-- Lines that may have line feeds of their own are cut into pieces, and so are the lines behind.
How many pieces they give is not known; therefore nothing is said about them. -/
theorem exists_pieces_append (ls : List String) (cs : List Char) : ∃ ps,
    Text.pieces '\n' ((ls.flatMap fun l => l.toList ++ ['\n']) ++ cs) =
      ps ++ Text.pieces '\n' cs := by
  induction ls with
  | nil => exact ⟨[], rfl⟩
  | cons l ls ih =>
    obtain ⟨ps, hps⟩ := ih
    refine ⟨Text.pieces '\n' l.toList ++ ps, ?_⟩
    rw [List.flatMap_cons, List.append_assoc, List.append_assoc, List.singleton_append,
      Text.pieces_append_sep, hps, List.append_assoc]

/-- The file is cut into the lines from the method on, whatever stands in front of them.  A
namespace with line feeds makes more lines, but no others behind it. -/
theorem exists_fileLines_source
    (hrecords : ∀ r ∈ records, OneLine r.language ∧ OneLine r.entryPoint) :
    ∃ before, fileLines (source options records) =
      before ++ (linesFromMethod options.autoRegister records ++ [""]) := by
  -- they are lines of a file with another namespace, too
  have honeLine : ∀ l ∈ linesFromMethod options.autoRegister records, OneLine l := by
    intro l hl
    have hnone : OneLine (Options.mk "" options.autoRegister).nameSpace := oneLine_ofList (by decide)
    refine oneLine_lines hnone hrecords l ?_
    rw [lines_eq]
    exact List.mem_append_right _ hl
  obtain ⟨ps, hps⟩ := exists_pieces_append (linesBefore options)
    ((linesFromMethod options.autoRegister records).flatMap fun l => l.toList ++ ['\n'])
  have hcut := pieces_flatMap honeLine
  refine ⟨ps.map String.ofList, ?_⟩
  rw [fileLines, source, String.toList_ofList, lines_eq, List.flatMap_append, hps, List.map_append,
    hcut]

/-! ### The lines of the method -/

/-- Looking from the end for a line that is not among the last ones finds where they begin. -/
theorem reverse_takeWhile_reverse {h : String} (before : List String) {after : List String}
    (hafter : h ∉ after) :
    ((before ++ h :: after).reverse.takeWhile (· ≠ h)).reverse = after := by
  have hbehind : ∀ l ∈ after.reverse, decide (l ≠ h) = true := by
    intro l hl
    rw [decide_eq_true_eq]
    rintro rfl
    exact hafter (List.mem_reverse.mp hl)
  have hhead : (h :: before.reverse).takeWhile (· ≠ h) = [] :=
    List.takeWhile_cons_of_neg (by simp)
  rw [List.reverse_append, List.reverse_cons, List.append_assoc, List.singleton_append,
    List.takeWhile_append_of_pos hbehind, hhead, List.append_nil, List.reverse_reverse]

/-- Lines that are indented by three steps or more have a blank where those of two steps begin.
This tells the lines between the braces from the braces and from the header. -/
theorem getElem?_indent {steps : Nat} (h : 3 ≤ steps) (line : String) :
    (indent steps line).toList[8]? = some ' ' := by
  have hlength : 8 < (List.replicate (4 * steps) ' ').length := by
    rw [List.length_replicate]
    omega
  rw [indent, String.toList_append, String.toList_ofList, List.getElem?_append_left hlength,
    List.getElem?_replicate_of_lt (by omega)]

/-- The lines of a policy are indented by four or five steps. -/
theorem getElem?_retryLines (p : RetryPolicy) : ∀ l ∈ retryLines p, l.toList[8]? = some ' ' := by
  unfold retryLines
  cases maxRetryCount? p with
  | none => exact List.forall_mem_nil _
  | some count =>
    have hfour (line : String) : (indent 4 line).toList[8]? = some ' ' :=
      getElem?_indent (by decide) line
    simp only [List.forall_mem_append, List.forall_mem_cons, List.forall_mem_map]
    exact ⟨⟨⟨hfour _, hfour _, List.forall_mem_nil _⟩, fun l _ => getElem?_indent (by decide) l⟩,
      hfour _, List.forall_mem_nil _⟩

/-- No line of a function begins as far left as a brace of the method does. -/
theorem getElem?_functionLines (r : FunctionRecord) :
    ∀ l ∈ functionLines r, l.toList[8]? = some ' ' := by
  have hthree (line : String) : (indent 3 line).toList[8]? = some ' ' := getElem?_indent (by decide) line
  have hfour (line : String) : (indent 4 line).toList[8]? = some ' ' := getElem?_indent (by decide) line
  have hretry := getElem?_retryLines r.retry
  simp only [functionLines, bindingLine, List.forall_mem_append, List.forall_mem_cons,
    List.forall_mem_map, List.not_mem_nil, false_implies, implies_true, and_true]
  exact ⟨⟨⟨⟨hthree _, fun _ _ => hthree _⟩, hthree _, hthree _, hfour _, hfour _, hfour _, hfour _⟩,
    hretry⟩, hfour _, hthree _, hthree _⟩

/-- No line between the braces begins where a brace or the header does, so it is neither of them,
whatever texts are in it. -/
theorem ne_of_mem_bodyLines {l : String} (hl : l ∈ bodyLines records) {other : String}
    (hother : other.toList[8]? ≠ some ' ') : l ≠ other := by
  rintro rfl
  refine hother ?_
  rcases List.mem_append.mp hl with hl | hl
  · rcases List.mem_cons.mp hl with rfl | hl
    · exact getElem?_indent (by decide) _
    · obtain ⟨r, -, hmem⟩ := List.mem_flatMap.mp hl
      exact getElem?_functionLines r l hmem
  · rw [List.mem_singleton.mp hl]
    exact getElem?_indent (by decide) _

/-- Behind the method there are classes for the start-up, which have other methods. -/
theorem methodHeader_not_mem_linesBehind (autoRegister : Bool) :
    methodHeader ∉ linesBehind autoRegister := by
  cases autoRegister with
  | true => decide
  | false => decide

/-- **The body of the method is made of the lines of the records**, between those of the list.  The
method is found from the end of the file, and its end from its beginning. -/
theorem methodLines_source
    (hrecords : ∀ r ∈ records, OneLine r.language ∧ OneLine r.entryPoint) :
    methodLines (source options records) = bodyLines records := by
  obtain ⟨before, hcut⟩ := exists_fileLines_source options records hrecords
  -- The header of the method stands once, so the last one is the one that opens the body.
  have hheader : methodHeader ∉ indent 2 "\x7b" :: (bodyLines records ++
      indent 2 "\x7d" :: (linesBehind options.autoRegister ++ [""])) := by
    have hbody : methodHeader ∉ bodyLines records := fun h =>
      ne_of_mem_bodyLines records h (by decide) rfl
    have hbehind := methodHeader_not_mem_linesBehind options.autoRegister
    simp only [List.mem_cons, List.mem_append, not_or, List.not_mem_nil, not_false_iff, and_true]
    exact ⟨by decide, hbody, by decide, hbehind, by decide⟩
  have hbody : ∀ l ∈ bodyLines records, decide (l ≠ indent 2 "\x7d") = true := fun l hl =>
    decide_eq_true (ne_of_mem_bodyLines records hl (by decide))
  -- No line of the body is the closing brace of the method, so the body ends there.
  have hend : (indent 2 "\x7d" :: (linesBehind options.autoRegister ++ [""])).takeWhile
      (· ≠ indent 2 "\x7d") = [] := List.takeWhile_cons_of_neg (by simp)
  have hbehind := reverse_takeWhile_reverse before hheader
  unfold methodLines
  rw [hcut, linesFromMethod]
  simp only [List.cons_append, List.append_assoc]
  rw [hbehind, List.drop_one, List.tail_cons, List.takeWhile_append_of_pos hbody, hend, List.append_nil]

/-! ## Statements -/

/-- A statement of the method. -/
inductive Step where
  | declare (name : String) (value : List Token)
  | add (list : String) (argument : Token)
  | giveBack (value : List Token)
  deriving DecidableEq, Repr

namespace Step

/-- The tokens of a statement, up to its semicolon. -/
def tokens : Step → List Token
  | declare name value => .word "var" :: .word name :: .symbol '=' :: value
  | add list argument =>
    [.word list, .symbol '.', .word "Add", .symbol '(', argument, .symbol ')']
  | giveBack value => .word "return" :: value

/-- The statement that some tokens are. -/
def ofTokens? : List Token → Option Step
  | [.word list, .symbol '.', .word method, .symbol '(', argument, .symbol ')'] =>
    if method = "Add" then some (add list argument) else none
  | .word keyword :: .word name :: .symbol '=' :: value =>
    if keyword = "var" then some (declare name value) else none
  | .word keyword :: value => if keyword = "return" then some (giveBack value) else none
  | _ => none

end Step

/-- The statements that some tokens are, behind those of a statement that has begun. -/
def stepsFrom (begun : List Token) : List Token → Option (List Step)
  | [] => if begun.isEmpty then some [] else none
  | t :: ts =>
    if t = .symbol ';' then
      (Step.ofTokens? begun).bind fun step => (stepsFrom [] ts).map (step :: ·)
    else stepsFrom (begun ++ [t]) ts

/-- The statements of the method in the text of a file, if it is made of such statements only. -/
def methodSteps? (text : String) : Option (List Step) :=
  match Mode.between.feed ((methodLines text).flatMap fun l => l.toList ++ ['\n']) with
  | some (ts, .between) => stepsFrom [] ts
  | _ => none

/-- The tokens of statements, each with its semicolon. -/
def stepsTokens (steps : List Step) : List Token :=
  steps.flatMap fun s => s.tokens ++ [.symbol ';']

/-- A statement that is read back from its tokens. -/
structure Step.IsPlain (s : Step) : Prop where
  unbroken : .symbol ';' ∉ s.tokens
  read_back : ofTokens? s.tokens = some s

/-- The tokens up to a semicolon are one statement, together with those that have been read before,
and behind the semicolon a new one begins. -/
theorem stepsFrom_append {ts : List Token} (h : .symbol ';' ∉ ts) (begun rest : List Token) :
    stepsFrom begun (ts ++ .symbol ';' :: rest) =
      (Step.ofTokens? (begun ++ ts)).bind fun step => (stepsFrom [] rest).map (step :: ·) := by
  induction ts generalizing begun with
  | nil => rw [List.nil_append, List.append_nil, stepsFrom, if_pos rfl]
  | cons t ts ih =>
    rw [List.mem_cons, not_or] at h
    rw [List.cons_append, stepsFrom, if_neg (Ne.symm h.1), ih h.2, List.append_assoc,
      List.singleton_append]

/-- **Plain statements are read back from their tokens**, by induction over the statements: each is
read up to its own semicolon, since it has no other one. -/
theorem stepsFrom_stepsTokens {steps : List Step} (h : ∀ s ∈ steps, s.IsPlain) :
    stepsFrom [] (stepsTokens steps) = some steps := by
  induction steps with
  | nil => rfl
  | cons s steps ih =>
    obtain ⟨hs, hsteps⟩ := List.forall_mem_cons.mp h
    rw [stepsTokens, List.flatMap_cons, List.append_assoc, List.singleton_append,
      stepsFrom_append hs.unbroken, List.nil_append, hs.read_back, Option.bind_some]
    show (stepsFrom [] (stepsTokens steps)).map _ = _
    rw [ih hsteps]
    rfl

/-! ### The statements of a record -/

/-- The tokens of an empty list. -/
def newListTokens (type : String) : List Token :=
  [.word "new", .word "List", .symbol '<', .word type, .symbol '>', .symbol '(', .symbol ')']

/-- The tokens of the fields of a record in front of its bindings. -/
def fieldsBefore : List Token :=
  [.word "new", .word "DefaultFunctionMetadata", .symbol '\x7b',
    .word "Language", .symbol '=', .literal, .symbol ',',
    .word "Name", .symbol '=', .literal, .symbol ',',
    .word "EntryPoint", .symbol '=', .literal, .symbol ',']

/-- The tokens of the fields of a record behind its bindings. -/
def fieldsBehind (p : RetryPolicy) : List Token :=
  .symbol ',' :: retryTokens p ++ [.word "ScriptFile", .symbol '=', .literal, .symbol '\x7d']

/-- The tokens of a record that is assigned its bindings. -/
def metadataTokens (r : FunctionRecord) : List Token :=
  fieldsBefore ++ [.word "RawBindings", .symbol '=', .word (bindingsVariable r.callSite)] ++
    fieldsBehind r.retry

/-- The statements of the bindings of a record. -/
def bindingSteps (r : FunctionRecord) : List Step :=
  .declare (bindingsVariable r.callSite) (newListTokens "string") ::
    List.replicate r.bindings.length (.add (bindingsVariable r.callSite) .literal)

/-- The statements of a record. -/
def recordSteps (r : FunctionRecord) : List Step :=
  bindingSteps r ++ [.declare (functionVariable r.callSite) (metadataTokens r),
    .add "metadataList" (.word (functionVariable r.callSite))]

/-- The tokens of the list as the host gets it. -/
def resultTokens : List Token :=
  [.word "Task", .symbol '.', .word "FromResult", .symbol '(', .word "metadataList", .symbol '.',
    .word "ToImmutableArray", .symbol '(', .symbol ')', .symbol ')']

/-- The statements of the method. -/
def methodSteps (records : List FunctionRecord) : List Step :=
  .declare "metadataList" (newListTokens "IFunctionMetadata") ::
    records.flatMap recordSteps ++ [.giveBack resultTokens]

/-- Each line of a binding adds one literal to the list, so the lines are as many equal statements
as there are bindings. -/
theorem readsAll_bindingLines (n : Nat) (bindings : List Binding) :
    ReadsAll (bindings.map (bindingLine n))
      (stepsTokens (List.replicate bindings.length (.add (bindingsVariable n) .literal))) := by
  induction bindings with
  | nil => exact readsAll_nil
  | cons b bindings ih => exact readsAll_cons (reads_bindingLine n b) ih

/-- The lines of a function are read as its statements: those of its bindings between the
declaration of the list and the one of the record, and the line that adds the record. -/
theorem readsAll_functionLines {r : FunctionRecord}
    (hlanguage : r.language = FunctionRecord.workerLanguage)
    (hentry : r.entryPoint = FunctionRecord.webEntryPoint) :
    ReadsAll (functionLines r) (stepsTokens (recordSteps r)) := by
  have hbrace : Reads "\x7b" [.symbol '\x7b'] := rfl
  have hend : Reads "\x7d;" [.symbol '\x7d', .symbol ';'] := rfl
  have hlanguageLine : Reads (indent 4 ("Language = \"" ++ r.language ++ "\","))
      [.word "Language", .symbol '=', .literal, .symbol ','] := by
    rw [hlanguage]
    rfl
  have hentryLine : Reads (indent 4 ("EntryPoint = \"" ++ r.entryPoint ++ "\","))
      [.word "EntryPoint", .symbol '=', .literal, .symbol ','] := by
    rw [hentry]
    rfl
  -- The parts of a record in the order of the lines: its list, its fields, the retry, the end.
  have hfields := readsAll_cons (reads_declarationLine r.callSite)
    (readsAll_cons (reads_indent 3 hbrace) (readsAll_cons hlanguageLine
      (readsAll_cons (reads_nameLine r.callSite r.name) (readsAll_cons hentryLine
        (readsAll_singleton (reads_rawBindingsLine r.callSite))))))
  have hlast := readsAll_cons (reads_scriptFileLine r.scriptFile)
    (readsAll_cons (reads_indent 3 hend) (readsAll_singleton (reads_registrationLine r.callSite)))
  have hbindings := (readsAll_singleton (reads_openingLine r.callSite)).append
    (readsAll_bindingLines r.callSite r.bindings)
  have hlines : ReadsAll (functionLines r) _ :=
    ((hbindings.append hfields).append (readsAll_retryLines r.retry)).append hlast
  simp only [stepsTokens, recordSteps, bindingSteps, metadataTokens, fieldsBefore, fieldsBehind,
    newListTokens, Step.tokens, List.flatMap_append, List.flatMap_cons, List.flatMap_nil,
    List.append_assoc, List.cons_append, List.nil_append, List.append_nil] at hlines ⊢
  exact hlines

/-- The lines of the body are read as the statements of the method, record by record, between the
line that makes the list and the one that returns it. -/
theorem readsAll_bodyLines
    (hrecords : ∀ r ∈ records, r.language = FunctionRecord.workerLanguage ∧
      r.entryPoint = FunctionRecord.webEntryPoint) :
    ReadsAll (bodyLines records) (stepsTokens (methodSteps records)) := by
  have hlist : ReadsAll [listLine]
      (stepsTokens [.declare "metadataList" (newListTokens "IFunctionMetadata")]) := rfl
  have hreturn : ReadsAll [returnLine] (stepsTokens [.giveBack resultTokens]) := rfl
  have hfunctions : ReadsAll (records.flatMap functionLines)
      (records.flatMap fun r => stepsTokens (recordSteps r)) :=
    readsAll_flatMap fun r hr => readsAll_functionLines (hrecords r hr).1 (hrecords r hr).2
  have hall := (hlist.append hfunctions).append hreturn
  have htokens : records.flatMap (fun r => stepsTokens (recordSteps r)) =
      stepsTokens (records.flatMap recordSteps) := List.flatMap_assoc.symm
  rw [htokens] at hall
  simp only [stepsTokens, ← List.flatMap_append] at hall
  exact hall

/-! ### Reading them back -/

/-- The tokens of an integer are a word and perhaps a minus. -/
theorem semicolon_not_mem_integerTokens (i : Int) : Token.symbol ';' ∉ integerTokens i := by
  cases i with
  | ofNat n => simp [integerTokens]
  | negSucc n => simp [integerTokens]

/-- A policy is part of an expression, so it ends no statement.  The cases are its three forms. -/
theorem semicolon_not_mem_retryTokens (p : RetryPolicy) : Token.symbol ';' ∉ retryTokens p := by
  unfold retryTokens
  split
  · exact List.not_mem_nil
  · cases p <;>
      simp [policyTokens, countTokens, intervalTokens, semicolon_not_mem_integerTokens]

/-- The declaration of a record is one statement from its first token to its semicolon. -/
theorem semicolon_not_mem_metadataTokens (r : FunctionRecord) : Token.symbol ';' ∉ metadataTokens r := by
  simp [metadataTokens, fieldsBefore, fieldsBehind, semicolon_not_mem_retryTokens]

/-- A declaration is read back if its value does not end it early. -/
theorem isPlain_declare (name : String) {value : List Token} (h : .symbol ';' ∉ value) :
    (Step.declare name value).IsPlain := by
  refine ⟨?_, rfl⟩
  simp [Step.tokens, h]

/-- A statement that adds to a list is read back, whatever the token of its argument is, short of a
semicolon. -/
theorem isPlain_add (list : String) {argument : Token} (h : argument ≠ .symbol ';') :
    (Step.add list argument).IsPlain := by
  refine ⟨?_, rfl⟩
  simp [Step.tokens, h.symm]

theorem isPlain_newList (name type : String) : (Step.declare name (newListTokens type)).IsPlain :=
  isPlain_declare name (by simp [newListTokens])

/-- All statements of a record are plain: it declares two variables, and everything else is added to
a list. -/
theorem isPlain_of_mem_recordSteps (r : FunctionRecord) : ∀ s ∈ recordSteps r, s.IsPlain := by
  have hbinding : ∀ s ∈ List.replicate r.bindings.length
      (Step.add (bindingsVariable r.callSite) .literal), s.IsPlain := by
    intro s hs
    rw [List.eq_of_mem_replicate hs]
    exact isPlain_add _ (by decide)
  simp only [recordSteps, bindingSteps, List.forall_mem_cons, List.forall_mem_append]
  exact ⟨⟨isPlain_newList _ _, hbinding⟩, isPlain_declare _ (semicolon_not_mem_metadataTokens r),
    isPlain_add _ (by simp), List.forall_mem_nil _⟩

/-- All statements of the method are plain, those in front of the records and behind them as well. -/
theorem isPlain_of_mem_methodSteps : ∀ s ∈ methodSteps records, s.IsPlain := by
  have hreturn : (Step.giveBack resultTokens).IsPlain := ⟨by decide, rfl⟩
  simp only [methodSteps, List.cons_append, List.forall_mem_cons, List.forall_mem_append,
    List.forall_mem_flatMap]
  exact ⟨isPlain_newList _ _, fun r _ => isPlain_of_mem_recordSteps r, hreturn, List.forall_mem_nil _⟩

/-- **The method of a provider is made of the statements of its records**, whatever namespace the
file is written for.  What is said about the scope of its variables is said about these statements. -/
theorem methodSteps?_source
    (hrecords : ∀ r ∈ records, r.language = FunctionRecord.workerLanguage ∧
      r.entryPoint = FunctionRecord.webEntryPoint) :
    methodSteps? (source options records) = some (methodSteps records) := by
  have honeLine : ∀ r ∈ records, OneLine r.language ∧ OneLine r.entryPoint := by
    intro r hr
    rw [(hrecords r hr).1, (hrecords r hr).2]
    exact ⟨oneLine_ofList (by decide), oneLine_ofList (by decide)⟩
  have hread : Mode.between.feed _ = _ := readsAll_bodyLines records hrecords
  rw [methodSteps?, methodLines_source options records honeLine, hread]
  exact stepsFrom_stepsTokens (isPlain_of_mem_methodSteps records)

end RouteIndex.Provider
