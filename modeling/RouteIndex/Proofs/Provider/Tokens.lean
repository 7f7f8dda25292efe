/-
  The tokens of a method, as far as a provider has any.

  Names and punctuation tell which variables a method declares and uses; what stands inside a string
  literal does not.  So a text is read as words, symbols and literals, and a literal is a token of
  which nothing is kept.

  1. **Reading** — `Mode.step` reads one character; the mode is what the reader is in the middle of.
     Reading is composed like the text (`Feeds.append`).
  2. **Pieces** — names, integers and the two kinds of literals are read as one token each, whatever
     text a literal is made of (`feeds_regularLiteral`, `feeds_verbatimLiteral`).
  3. **Lines** — therefore each line of a function is read as the tokens that it shows, whatever texts
     it holds (`Reads`); the lines of a policy are read one after the other
     (`readsAll_retryLines`).
-/

import RouteIndex.Proofs.Provider.Names

namespace RouteIndex.Provider

/-! ## Reading -/

/-- A token of a method; a literal is one, whatever it says. -/
inductive Token where
  | word (w : String)
  | symbol (c : Char)
  | literal
  deriving DecidableEq, Repr

/-- What a reader is in the middle of. -/
inductive Mode where
  | between
  | word (cs : List Char)
  /-- Behind the sign in front of a verbatim literal. -/
  | atSign
  | verbatim
  /-- Behind a quote in a verbatim literal, which is its end or the first of two. -/
  | quote
  | regular
  | escape
  deriving DecidableEq, Repr

/-- The characters of names, keywords and numbers. -/
def isWordChar (c : Char) : Bool :=
  c.isAlphanum || c = '_'

/-- The symbols of a method. -/
def symbols : List Char :=
  ['=', '<', '>', '(', ')', '.', ',', ';', '-', '\x7b', '\x7d']

/-- What a character begins. -/
def begins (c : Char) : Option (List Token × Mode) :=
  if c = ' ' ∨ c = '\n' then some ([], .between)
  else if isWordChar c then some ([], .word [c])
  else if c = '"' then some ([], .regular)
  else if c = '@' then some ([], .atSign)
  else if c ∈ symbols then some ([.symbol c], .between)
  else none

namespace Mode

/-- The next character, with the tokens that are complete with it. -/
def step : Mode → Char → Option (List Token × Mode)
  | between, c => begins c
  | word cs, c =>
    if isWordChar c then some ([], word (cs ++ [c]))
    else (begins c).map fun (ts, m) => (.word (String.ofList cs) :: ts, m)
  | atSign, c => if c = '"' then some ([], verbatim) else none
  | verbatim, c => some ([], if c = '"' then quote else verbatim)
  | quote, c =>
    if c = '"' then some ([], verbatim)
    else (begins c).map fun (ts, m) => (.literal :: ts, m)
  | regular, c =>
    if c = '"' then some ([.literal], between)
    else if c = '\\' then some ([], escape)
    else if c = '\n' then none
    else some ([], regular)
  | escape, c => if c = '\n' then none else some ([], regular)

/-- The next characters, one after the other. -/
def feed : Mode → List Char → Option (List Token × Mode)
  | m, [] => some ([], m)
  | m, c :: cs => (m.step c).bind fun (ts, m) => (m.feed cs).map fun (us, m) => (ts ++ us, m)

/-- The characters are read as the tokens, from one mode to another. -/
def Feeds (m : Mode) (cs : List Char) (ts : List Token) (m' : Mode) : Prop :=
  m.feed cs = some (ts, m')

theorem feeds_nil (m : Mode) : m.Feeds [] [] m :=
  rfl

/-- One character and then the rest: the tokens that are complete with the character come first. -/
theorem feeds_cons {m m' m'' : Mode} {c : Char} {cs : List Char} {ts us : List Token}
    (hstep : m.step c = some (ts, m')) (h : m'.Feeds cs us m'') :
    m.Feeds (c :: cs) (ts ++ us) m'' := by
  rw [Feeds, feed, hstep]
  show (m'.feed cs).map _ = _
  rw [h]
  rfl

/-- **Two pieces are read one after the other**, each from the mode in which the piece before it has
left the reader.  All lines are put together by this law. -/
theorem Feeds.append {m m' m'' : Mode} {xs ys : List Char} {ts us : List Token}
    (h : m.Feeds xs ts m') (h' : m'.Feeds ys us m'') : m.Feeds (xs ++ ys) (ts ++ us) m'' := by
  induction xs generalizing m ts with
  | nil =>
    obtain ⟨rfl, rfl⟩ := Prod.mk.inj (Option.some.inj h)
    exact h'
  | cons c xs ih =>
    rw [Feeds, feed, Option.bind_eq_some_iff] at h
    obtain ⟨⟨first, mid⟩, hstep, hrest⟩ := h
    obtain ⟨⟨rest, last⟩, hfeed, heq⟩ := Option.map_eq_some_iff.mp hrest
    obtain ⟨rfl, rfl⟩ := Prod.mk.inj heq
    rw [List.cons_append, List.append_assoc]
    exact feeds_cons hstep (ih hfeed)

end Mode

/-! ## Pieces -/

namespace Mode

/-- Blanks between tokens are passed over. -/
theorem feeds_spaces (n : Nat) : between.Feeds (List.replicate n ' ') [] between := by
  induction n with
  | zero => exact feeds_nil between
  | succ n ih =>
    have hstep : between.step ' ' = some ([], between) := rfl
    exact feeds_cons hstep ih

/-- Inside a word, characters of words are collected, and no token is complete. -/
theorem feeds_word_append {cs : List Char} (h : ∀ c ∈ cs, isWordChar c = true) (ds : List Char) :
    (word ds).Feeds cs [] (word (ds ++ cs)) := by
  induction cs generalizing ds with
  | nil =>
    rw [List.append_nil]
    exact feeds_nil _
  | cons c cs ih =>
    obtain ⟨hc, hcs⟩ := List.forall_mem_cons.mp h
    have hstep : (word ds).step c = some ([], word (ds ++ [c])) := if_pos hc
    have hrest := ih hcs (ds ++ [c])
    rw [List.append_assoc, List.singleton_append] at hrest
    exact feeds_cons hstep hrest

/-- A name is read as one word, which is complete only with the next character: the reader stays
inside the word. -/
theorem feeds_name {cs : List Char} (hne : cs ≠ []) (h : ∀ c ∈ cs, isWordChar c = true) :
    between.Feeds cs [] (word cs) := by
  cases cs with
  | nil => exact absurd rfl hne
  | cons c cs =>
    obtain ⟨hc, hcs⟩ := List.forall_mem_cons.mp h
    have hblank : ¬ (c = ' ' ∨ c = '\n') := by
      rintro (rfl | rfl)
      · exact absurd hc (by decide)
      · exact absurd hc (by decide)
    have hstep : between.step c = some ([], word [c]) := (if_neg hblank).trans (if_pos hc)
    exact feeds_cons hstep (feeds_word_append hcs [c])

/-! ### Literals -/

/-- Inside a regular literal, the way in which any character is written leads back into the literal.
A quote and a backslash are written with a backslash, so neither of them ends it. -/
theorem feeds_escapeChar (c : Char) : regular.Feeds (escapeChar c) [] regular := by
  unfold escapeChar
  split
  case h_6 hbackslash hquote hnewline _ _ =>
    have hstep : regular.step c = some ([], regular) :=
      (if_neg hquote).trans ((if_neg hbackslash).trans (if_neg hnewline))
    exact feeds_cons hstep (feeds_nil regular)
  all_goals rfl

/-- If each character leads back to the mode, so does a text.  The two literals are cases of this,
with their own ways of writing a character. -/
theorem feeds_flatMap {m : Mode} {f : Char → List Char} (h : ∀ c, m.Feeds (f c) [] m)
    (cs : List Char) : m.Feeds (cs.flatMap f) [] m := by
  induction cs with
  | nil => exact feeds_nil m
  | cons c cs ih =>
    rw [List.flatMap_cons]
    exact (h c).append ih

/-- **A regular literal is one token, whatever text it is made of.** -/
theorem feeds_regularLiteral (s : String) :
    between.Feeds (regularLiteral s).toList [.literal] between := by
  have hopening : between.Feeds ['"'] [] regular := rfl
  have hclosing : regular.Feeds ['"'] [.literal] between := rfl
  have hbody := feeds_flatMap feeds_escapeChar s.toList
  rw [regularLiteral, String.toList_ofList]
  exact (hopening.append hbody).append hclosing

/-- Inside a verbatim literal, a quote is written twice, which leads out of the literal and back
into it. -/
theorem feeds_doubleQuote (c : Char) : verbatim.Feeds (doubleQuote c) [] verbatim := by
  unfold doubleQuote
  split
  · rfl
  · rename_i hquote
    have hstep : verbatim.step c = some ([], verbatim) := by
      rw [step, if_neg hquote]
    exact feeds_cons hstep (feeds_nil verbatim)

/-- **A verbatim literal is one token**, which is complete with the next character, unless that is
another quote.  The reader is left behind the quote, where both are still possible. -/
theorem feeds_verbatimLiteral (s : String) :
    between.Feeds (verbatimLiteral s).toList [] quote := by
  have hopening : between.Feeds "@\"".toList [] verbatim := rfl
  have hclosing : verbatim.Feeds "\"".toList [] quote := rfl
  have hbody : verbatim.Feeds (verbatimBody s).toList [] verbatim := by
    rw [verbatimBody, String.toList_ofList]
    exact feeds_flatMap feeds_doubleQuote s.toList
  rw [verbatimLiteral, String.toList_append, String.toList_append]
  exact (hopening.append hbody).append hclosing

end Mode

/-! ### Names and numbers -/

theorem isWordChar_of_isDigit {c : Char} (h : c.isDigit = true) : isWordChar c = true := by
  rw [isWordChar, Char.isAlphanum, h, Bool.or_true, Bool.true_or]

/-- A text that is read as one word. -/
structure IsName (s : String) : Prop where
  ne_empty : s ≠ ""
  isWordChar_of_mem : ∀ c ∈ s.toList, isWordChar c = true

/-- What is to be looked at: at least one character, and only those of words. -/
theorem isName_of_all {s : String} (hne : s ≠ "") (h : s.toList.all isWordChar = true) : IsName s :=
  ⟨hne, List.all_eq_true.mp h⟩

theorem isName_number (n : Nat) : IsName (number n) := by
  constructor
  · intro h
    have hdigits := congrArg String.toList h
    rw [number, String.toList_ofList] at hdigits
    exact Text.digitsOf_ne_nil n hdigits
  · intro c hc
    rw [number, String.toList_ofList] at hc
    exact isWordChar_of_isDigit (Text.isDigit_of_mem_digitsOf hc)

/-- The variable of a function is a name whatever its position, for digits are characters of words. -/
theorem isName_functionVariable (n : Nat) : IsName (functionVariable n) := by
  have hstart : IsName "Function" := isName_of_all (by decide) (by decide)
  refine ⟨functionVariable_ne_empty n, ?_⟩
  rw [functionVariable, String.toList_append, List.forall_mem_append]
  exact ⟨hstart.isWordChar_of_mem, (isName_number n).isWordChar_of_mem⟩

theorem isName_bindingsVariable (n : Nat) : IsName (bindingsVariable n) := by
  have hvariable : bindingsVariable n = functionVariable n ++ "RawBindings" := rfl
  have hend : IsName "RawBindings" := isName_of_all (by decide) (by decide)
  rw [hvariable]
  constructor
  · intro h
    exact functionVariable_ne_empty n (String.append_eq_empty_iff.mp h).1
  · rw [String.toList_append, List.forall_mem_append]
    exact ⟨(isName_functionVariable n).isWordChar_of_mem, hend.isWordChar_of_mem⟩

/-- A name with a text behind it that does not go on with the name. -/
theorem feeds_named {name : String} (h : IsName name) {after : List Char} {ts : List Token} {m : Mode}
    (hafter : (Mode.word name.toList).Feeds after (.word (String.ofList name.toList) :: ts) m) :
    Mode.between.Feeds (name.toList ++ after) (.word name :: ts) m := by
  have hchars : name.toList ≠ [] := fun hnil => h.ne_empty (String.toList_eq_nil_iff.mp hnil)
  rw [String.ofList_toList] at hafter
  exact (Mode.feeds_name hchars h.isWordChar_of_mem).append hafter

/-- The tokens of an integer. -/
def integerTokens : Int → List Token
  | .ofNat n => [.word (number n)]
  | .negSucc n => [.symbol '-', .word (number (n + 1))]

/-- An integer in front of a text that does not go on with it.  Its minus is a symbol of its own;
therefore two cases. -/
theorem feeds_integer (i : Int) {after : List Char} {ts : List Token} {m : Mode}
    (hafter : ∀ cs, (Mode.word cs).Feeds after (.word (String.ofList cs) :: ts) m) :
    Mode.between.Feeds (Text.integerDigits i ++ after) (integerTokens i ++ ts) m := by
  have hnumber (n : Nat) : Mode.between.Feeds (Text.digitsOf n ++ after) (.word (number n) :: ts) m := by
    have h := feeds_named (isName_number n) (hafter _)
    rwa [number, String.toList_ofList] at h
  cases i with
  | ofNat n => exact hnumber n
  | negSucc n =>
    have hsign : Mode.between.Feeds ['-'] [.symbol '-'] .between := rfl
    exact hsign.append (hnumber (n + 1))

/-! ## Lines -/

/-- The line is read as the tokens, with the line feed behind it. -/
def Reads (line : String) (ts : List Token) : Prop :=
  Mode.between.Feeds (line.toList ++ ['\n']) ts .between

/-- Indentation does not count, so lines are read without it. -/
theorem reads_indent {line : String} {ts : List Token} (steps : Nat) (h : Reads line ts) :
    Reads (indent steps line) ts := by
  rw [Reads, indent, String.toList_append, String.toList_ofList, List.append_assoc]
  exact (Mode.feeds_spaces (4 * steps)).append h

/-- A line with a name in it. -/
theorem reads_named {first name last : String} {ts us : List Token} (h : IsName name)
    (hfirst : Mode.between.Feeds first.toList ts .between)
    (hlast : (Mode.word name.toList).Feeds (last.toList ++ ['\n'])
      (.word (String.ofList name.toList) :: us) .between) :
    Reads (first ++ name ++ last) (ts ++ .word name :: us) := by
  rw [Reads, String.toList_append, String.toList_append, List.append_assoc, List.append_assoc]
  exact hfirst.append (feeds_named h hlast)

/-- A line with a literal in it. -/
theorem reads_quoted {first last : String} {ts us : List Token} (text : String)
    (hfirst : Mode.between.Feeds first.toList ts .between)
    (hlast : Mode.between.Feeds (last.toList ++ ['\n']) us .between) :
    Reads (first ++ regularLiteral text ++ last) (ts ++ .literal :: us) := by
  rw [Reads, String.toList_append, String.toList_append, List.append_assoc, List.append_assoc]
  exact hfirst.append ((Mode.feeds_regularLiteral text).append hlast)

/-- The lines are read as the tokens. -/
def ReadsAll (ls : List String) (ts : List Token) : Prop :=
  Mode.between.Feeds (ls.flatMap fun l => l.toList ++ ['\n']) ts .between

theorem readsAll_nil : ReadsAll [] [] :=
  Mode.feeds_nil _

/-- One line and then the others. -/
theorem readsAll_cons {l : String} {ls : List String} {ts us : List Token} (h : Reads l ts)
    (hs : ReadsAll ls us) : ReadsAll (l :: ls) (ts ++ us) := by
  rw [ReadsAll, List.flatMap_cons]
  exact h.append hs

/-- Two groups of lines are read one after the other; between lines the reader is between tokens. -/
theorem ReadsAll.append {ls ms : List String} {ts us : List Token} (h : ReadsAll ls ts)
    (h' : ReadsAll ms us) : ReadsAll (ls ++ ms) (ts ++ us) := by
  rw [ReadsAll, List.flatMap_append]
  exact Mode.Feeds.append h h'

/-- Lines that are made for each element of a list are read element by element. -/
theorem readsAll_flatMap {α : Type} {f : α → List String} {g : α → List Token} {as : List α}
    (h : ∀ a ∈ as, ReadsAll (f a) (g a)) : ReadsAll (as.flatMap f) (as.flatMap g) := by
  induction as with
  | nil => exact readsAll_nil
  | cons a as ih =>
    obtain ⟨ha, has⟩ := List.forall_mem_cons.mp h
    rw [List.flatMap_cons, List.flatMap_cons]
    exact ha.append (ih has)

/-! ## The lines of a function -/

/-- The line that declares the list of bindings.  The name of the variable is the only part that is
not fixed, here and in the lines below. -/
theorem reads_openingLine (n : Nat) :
    Reads (indent 3 ("var " ++ bindingsVariable n ++ " = new List<string>();"))
      [.word "var", .word (bindingsVariable n), .symbol '=', .word "new", .word "List", .symbol '<',
        .word "string", .symbol '>', .symbol '(', .symbol ')', .symbol ';'] := by
  have hfirst : Mode.between.Feeds "var ".toList [.word "var"] .between := rfl
  exact reads_indent 3 (reads_named (isName_bindingsVariable n) hfirst rfl)

/-- The line of a binding shows the variable of its list and one literal, whatever the binding
says. -/
theorem reads_bindingLine (n : Nat) (b : Binding) :
    Reads (bindingLine n b) [.word (bindingsVariable n), .symbol '.', .word "Add", .symbol '(',
      .literal, .symbol ')', .symbol ';'] := by
  have hcall (cs : List Char) : (Mode.word cs).Feeds ".Add(".toList
      [.word (String.ofList cs), .symbol '.', .word "Add", .symbol '('] .between := rfl
  have hlast : Mode.quote.Feeds (");".toList ++ ['\n']) [.literal, .symbol ')', .symbol ';']
      .between := rfl
  have hargument := ((hcall (bindingsVariable n).toList).append
    (Mode.feeds_verbatimLiteral b.text)).append hlast
  have hline := feeds_named (isName_bindingsVariable n) hargument
  refine reads_indent 3 ?_
  rw [Reads]
  simp only [String.toList_append, List.append_assoc] at hline ⊢
  exact hline

/-- The line that declares the variable of a function. -/
theorem reads_declarationLine (n : Nat) :
    Reads (indent 3 ("var " ++ functionVariable n ++ " = new DefaultFunctionMetadata"))
      [.word "var", .word (functionVariable n), .symbol '=', .word "new",
        .word "DefaultFunctionMetadata"] := by
  have hfirst : Mode.between.Feeds "var ".toList [.word "var"] .between := rfl
  exact reads_indent 3 (reads_named (isName_functionVariable n) hfirst rfl)

/-- The line of a name shows a literal, so a route cannot look like a variable. -/
theorem reads_nameLine (n : Nat) (name : Option String) :
    Reads (indent 4 ("Name = " ++ nameLiteral n name ++ ","))
      [.word "Name", .symbol '=', .literal, .symbol ','] := by
  have hfirst : Mode.between.Feeds "Name = ".toList [.word "Name", .symbol '='] .between := rfl
  exact reads_indent 4 (reads_quoted _ hfirst rfl)

/-- The line that uses the list of bindings. -/
theorem reads_rawBindingsLine (n : Nat) :
    Reads (indent 4 ("RawBindings = " ++ bindingsVariable n ++ ","))
      [.word "RawBindings", .symbol '=', .word (bindingsVariable n), .symbol ','] := by
  have hfirst : Mode.between.Feeds "RawBindings = ".toList [.word "RawBindings", .symbol '=']
      .between := rfl
  exact reads_indent 4 (reads_named (isName_bindingsVariable n) hfirst rfl)

theorem reads_scriptFileLine (scriptFile : String) :
    Reads (indent 4 ("ScriptFile = " ++ regularLiteral scriptFile))
      [.word "ScriptFile", .symbol '=', .literal] := by
  have hfirst : Mode.between.Feeds "ScriptFile = ".toList [.word "ScriptFile", .symbol '=']
      .between := rfl
  have hlast : Mode.between.Feeds ("".toList ++ ['\n']) [] .between := rfl
  have hline := reads_quoted scriptFile hfirst hlast
  rw [String.append_empty] at hline
  exact reads_indent 4 hline

/-- The line that uses the variable of a function. -/
theorem reads_registrationLine (n : Nat) :
    Reads (indent 3 ("metadataList.Add(" ++ functionVariable n ++ ");"))
      [.word "metadataList", .symbol '.', .word "Add", .symbol '(', .word (functionVariable n),
        .symbol ')', .symbol ';'] := by
  have hfirst : Mode.between.Feeds "metadataList.Add(".toList
      [.word "metadataList", .symbol '.', .word "Add", .symbol '('] .between := rfl
  exact reads_indent 3 (reads_named (isName_functionVariable n) hfirst rfl)

/-! ### Retry policies -/

/-- The tokens of the count of a policy. -/
def countTokens (count : Int32) : List Token :=
  [.word "MaxRetryCount", .symbol '='] ++ integerTokens count.toInt

/-- The tokens of an interval. -/
def intervalTokens (field : String) : List Token :=
  [.word field, .symbol '=', .word "TimeSpan", .symbol '.', .word "Parse", .symbol '(', .literal,
    .symbol ')']

/-- The tokens between the braces of a policy. -/
def policyTokens : RetryPolicy → List Token
  | .none => []
  | .fixedDelay count _ => countTokens count ++ .symbol ',' :: intervalTokens "DelayInterval"
  | .exponentialBackoff count _ _ =>
    countTokens count ++ .symbol ',' ::
      (intervalTokens "MinimumInterval" ++ .symbol ',' :: intervalTokens "MaximumInterval")

/-- The tokens of the lines of a policy. -/
def retryTokens (p : RetryPolicy) : List Token :=
  if p.isNone then []
  else [.word "Retry", .symbol '=', .word "new", .word "DefaultRetryOptions", .symbol '\x7b'] ++
    policyTokens p ++ [.symbol '\x7d', .symbol ',']

/-- The line of a count; a count may be below zero. -/
theorem reads_countLine (count : Int32) :
    Reads (indent 5 ("MaxRetryCount = " ++ String.ofList (Text.integerDigits count.toInt) ++ ","))
      (countTokens count ++ [.symbol ',']) := by
  have hfirst : Mode.between.Feeds "MaxRetryCount = ".toList [.word "MaxRetryCount", .symbol '=']
      .between := rfl
  have hlast (cs : List Char) : (Mode.word cs).Feeds (",".toList ++ ['\n'])
      [.word (String.ofList cs), .symbol ','] .between := rfl
  have hdigits : (String.ofList (Text.integerDigits count.toInt)).toList =
      Text.integerDigits count.toInt := String.toList_ofList
  have hline := hfirst.append (feeds_integer count.toInt hlast)
  refine reads_indent 5 ?_
  rw [Reads, String.toList_append, String.toList_append, hdigits, List.append_assoc,
    List.append_assoc, countTokens, List.append_assoc]
  exact hline

/-- The line of an interval, up to what stands behind it: the field is a name and the literal is a
literal. -/
theorem reads_intervalLine {field : String} (h : IsName field) (literal : String) {last : String}
    {ts : List Token}
    (hlast : Mode.between.Feeds (last.toList ++ ['\n']) ts .between) :
    Reads (indent 5 (intervalAssignment field literal ++ last)) (intervalTokens field ++ ts) := by
  have hparse (cs : List Char) : (Mode.word cs).Feeds " = TimeSpan.Parse(".toList
      [.word (String.ofList cs), .symbol '=', .word "TimeSpan", .symbol '.', .word "Parse",
        .symbol '('] .between := rfl
  have hbracket : Mode.between.Feeds ")".toList [.symbol ')'] .between := rfl
  have hline := (feeds_named h (hparse field.toList)).append
    ((Mode.feeds_regularLiteral literal).append (hbracket.append hlast))
  refine reads_indent 5 ?_
  rw [Reads]
  simp only [intervalAssignment, String.toList_append, List.append_assoc] at hline ⊢
  exact hline

theorem readsAll_singleton {l : String} {ts : List Token} (h : Reads l ts) : ReadsAll [l] ts := by
  have hline := readsAll_cons h readsAll_nil
  rwa [List.append_nil] at hline

theorem reads_lastIntervalLine {field : String} (h : IsName field) (literal : String) :
    Reads (indent 5 (intervalAssignment field literal)) (intervalTokens field) := by
  have hend : Mode.between.Feeds ("".toList ++ ['\n']) [] .between := rfl
  have hline := reads_intervalLine h literal hend
  rwa [String.append_empty, List.append_nil] at hline

/-- **The lines of a policy are read as its tokens**, in each of its three forms, and none of them
is the name of a variable. -/
theorem readsAll_retryLines (p : RetryPolicy) : ReadsAll (retryLines p) (retryTokens p) := by
  have hretry : Reads "Retry = new DefaultRetryOptions"
      [.word "Retry", .symbol '=', .word "new", .word "DefaultRetryOptions"] := rfl
  have hbrace : Reads "\x7b" [.symbol '\x7b'] := rfl
  have hend : Reads "\x7d," [.symbol '\x7d', .symbol ','] := rfl
  have hcomma : Mode.between.Feeds (",".toList ++ ['\n']) [.symbol ','] .between := rfl
  have hopening := readsAll_cons (reads_indent 4 hretry) (readsAll_singleton (reads_indent 4 hbrace))
  have hclosing := readsAll_singleton (reads_indent 4 hend)
  cases p with
  | none => exact readsAll_nil
  | fixedDelay count delay =>
    have hfield : IsName "DelayInterval" := isName_of_all (by decide) (by decide)
    have hbody := readsAll_cons (reads_countLine count)
      (readsAll_singleton (reads_lastIntervalLine hfield delay))
    rw [List.append_assoc] at hbody
    exact (hopening.append hbody).append hclosing
  | exponentialBackoff count low high =>
    have hlow : IsName "MinimumInterval" := isName_of_all (by decide) (by decide)
    have hhigh : IsName "MaximumInterval" := isName_of_all (by decide) (by decide)
    have hbody := readsAll_cons (reads_countLine count)
      (readsAll_cons (reads_intervalLine hlow low hcomma)
        (readsAll_singleton (reads_lastIntervalLine hhigh high)))
    rw [List.append_assoc] at hbody
    exact (hopening.append hbody).append hclosing

end RouteIndex.Provider
