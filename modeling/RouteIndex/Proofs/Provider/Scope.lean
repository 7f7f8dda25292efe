/-
  The variables of the method that gives the host its records.

  1. **Scope** — a statement may use a variable that has been declared in front of it.  `IsScoped` says
     so along the statements; what is known grows with every declaration, and the statements of a
     record need the list only (`isScoped_recordSteps`).
  2. **Names** — the two variables of a record are named for the position of its call site.  A number
     has digits only, so no name of one kind is one of the other kind, and different positions have
     different names (`nodup_flatMap_recordLocals`).
  3. **The method** — for records of different call sites, as an extraction gives them, the method is
     well scoped (**`method_is_well_scoped`**), and this is so of what is read from the file.
-/

import Mathlib.Data.List.Forall2
import Mathlib.Data.List.Nodup
import RouteIndex.Proofs.Degradation
import RouteIndex.Proofs.Provider.Method

namespace RouteIndex.Provider

/-! ## Scope -/

/-- The word that a token is. -/
def Token.word? : Token → Option String
  | .word w => some w
  | _ => none

/-- The words among the tokens. -/
def words (ts : List Token) : List String :=
  ts.filterMap Token.word?

namespace Step

/-- The variable that a statement declares. -/
def declared? : Step → Option String
  | declare name _ => some name
  | _ => none

/-- The words that a statement uses: a variable that it declares is not one of them, unless it stands
in its own value. -/
def uses : Step → List String
  | declare _ value => words value
  | add list argument => list :: words [argument]
  | giveBack value => words value

/-- What a statement adds to the list of records. -/
def registered? : Step → Option Token
  | add list argument => if list = "metadataList" then some argument else none
  | _ => none

end Step

/-- The variables that are declared, in the order of their declarations. -/
def locals (steps : List Step) : List String :=
  steps.filterMap Step.declared?

/-- What is declared in a row of statements is declared in their order. -/
theorem locals_append (steps others : List Step) :
    locals (steps ++ others) = locals steps ++ locals others :=
  List.filterMap_append

/-- What the name of a variable of the method looks like. -/
def IsVariable (x : String) : Prop :=
  x = "metadataList" ∨ "Function".toList <+: x.toList

instance (x : String) : Decidable (IsVariable x) :=
  inferInstanceAs (Decidable (_ ∨ _))

/-- Every variable that a statement uses is known, or has been declared in front of it. -/
def IsScoped (known : List String) : List Step → Prop
  | [] => True
  | s :: steps =>
    (∀ x ∈ s.uses, IsVariable x → x ∈ known) ∧ IsScoped (known ++ s.declared?.toList) steps

/-- **Scope is composed like the statements**: the later ones may use what is known and what the
earlier ones declare.  By induction over the earlier ones, with the known variables left open. -/
theorem isScoped_append {known : List String} {steps others : List Step} :
    IsScoped known (steps ++ others) ↔
      IsScoped known steps ∧ IsScoped (known ++ locals steps) others := by
  induction steps generalizing known with
  | nil =>
    rw [List.nil_append, locals, List.filterMap_nil, List.append_nil]
    exact ⟨fun h => ⟨trivial, h⟩, And.right⟩
  | cons s steps ih =>
    have hlocals : locals (s :: steps) = s.declared?.toList ++ locals steps := by
      rw [locals, List.filterMap_cons]
      cases s.declared? with
      | none => rfl
      | some x => rfl
    rw [List.cons_append, IsScoped, IsScoped, ih, hlocals, and_assoc, List.append_assoc]

/-- A variable is declared before every statement that uses it, or it was known from the start. -/
theorem IsScoped.declared_before {steps before after : List Step} {s : Step} {known : List String}
    (h : IsScoped known steps) (hsplit : steps = before ++ s :: after) {x : String}
    (hx : x ∈ s.uses) (hvariable : IsVariable x) : x ∈ known ++ locals before := by
  rw [hsplit, isScoped_append] at h
  exact h.2.1 x hx hvariable

/-- Statements that use what is known already are scoped, whatever they declare. -/
theorem isScoped_of_forall {known : List String} {steps : List Step}
    (h : ∀ s ∈ steps, ∀ x ∈ s.uses, IsVariable x → x ∈ known) : IsScoped known steps := by
  induction steps generalizing known with
  | nil => trivial
  | cons s steps ih =>
    obtain ⟨hs, hsteps⟩ := List.forall_mem_cons.mp h
    exact ⟨hs, ih fun t ht x hx hvariable => List.mem_append_left _ (hsteps t ht x hx hvariable)⟩

/-! ### The words of a record -/

/-- The words of tokens in a row. -/
theorem words_append (ts us : List Token) : words (ts ++ us) = words ts ++ words us :=
  List.filterMap_append

/-- The types and fields that a retry policy is written with. -/
def retryNames : List String :=
  ["Retry", "new", "DefaultRetryOptions", "MaxRetryCount", "DelayInterval", "MinimumInterval",
    "MaximumInterval", "TimeSpan", "Parse"]

/-- The words of a retry policy are these and numbers. -/
def IsRetryWord (x : String) : Prop :=
  x ∈ retryNames ∨ x.toList.all Char.isDigit = true

instance (x : String) : Decidable (IsRetryWord x) :=
  inferInstanceAs (Decidable (_ ∨ _))

theorem isRetryWord_number (n : Nat) : IsRetryWord (number n) := by
  refine Or.inr (List.all_eq_true.mpr fun c hc => ?_)
  rw [number, String.toList_ofList] at hc
  exact Text.isDigit_of_mem_digitsOf hc

/-- The words of a count are the name of its field and digits. -/
theorem isRetryWord_countTokens (count : Int32) :
    ∀ x ∈ words (countTokens count), IsRetryWord x := by
  rw [countTokens, words_append, List.forall_mem_append]
  refine ⟨by decide, ?_⟩
  cases count.toInt with
  | ofNat n => exact List.forall_mem_singleton.mpr (isRetryWord_number n)
  | negSucc n => exact List.forall_mem_singleton.mpr (isRetryWord_number (n + 1))

/-- All words that a policy is written with are names of types and fields, or digits; its texts
stand in literals, of which no words are kept. -/
theorem isRetryWord_retryTokens (p : RetryPolicy) : ∀ x ∈ words (retryTokens p), IsRetryWord x := by
  unfold retryTokens
  split
  · exact List.forall_mem_nil _
  · rw [words_append, words_append, List.forall_mem_append, List.forall_mem_append]
    refine ⟨⟨by decide, ?_⟩, by decide⟩
    cases p with
    | none => exact List.forall_mem_nil _
    | fixedDelay count delay =>
      rw [policyTokens, words_append, List.forall_mem_append]
      exact ⟨isRetryWord_countTokens count, by decide⟩
    | exponentialBackoff count low high =>
      rw [policyTokens, words_append, List.forall_mem_append]
      exact ⟨isRetryWord_countTokens count, by decide⟩

/-- A retry policy uses no variable.  None of its words begins like one, and digits do not either. -/
theorem IsRetryWord.not_isVariable {x : String} (h : IsRetryWord x) : ¬ IsVariable x := by
  rcases h with hname | hdigits
  · have hnames : ∀ x ∈ retryNames, ¬ IsVariable x := by decide
    exact hnames x hname
  · rw [List.all_eq_true] at hdigits
    rintro (rfl | hstart)
    · exact absurd (hdigits 'm' (by decide)) (by decide)
    · exact absurd (hdigits 'F' (hstart.subset (by decide))) (by decide)

/-- The words behind the bindings of a record. -/
theorem words_fieldsBehind (p : RetryPolicy) :
    words (fieldsBehind p) = words (retryTokens p) ++ ["ScriptFile"] := by
  have hsplit : fieldsBehind p = [.symbol ','] ++ retryTokens p ++
      [.word "ScriptFile", .symbol '=', .literal, .symbol '\x7d'] := rfl
  rw [hsplit, words_append, words_append]
  rfl

/-- **A record uses the variable of its bindings and no other one**, whatever it says: everything
that comes from a user stands in literals. -/
theorem eq_of_mem_metadataTokens {r : FunctionRecord} {x : String} (hx : x ∈ words (metadataTokens r))
    (hvariable : IsVariable x) : x = bindingsVariable r.callSite := by
  have hbefore : ∀ x ∈ words fieldsBefore, ¬ IsVariable x := by decide
  have hbehind : ∀ x ∈ words (fieldsBehind r.retry), ¬ IsVariable x := by
    rw [words_fieldsBehind, List.forall_mem_append]
    exact ⟨fun x hx => (isRetryWord_retryTokens r.retry x hx).not_isVariable, by decide⟩
  have hmiddle : words [.word "RawBindings", .symbol '=', .word (bindingsVariable r.callSite)] =
      ["RawBindings", bindingsVariable r.callSite] := rfl
  rw [metadataTokens, words_append, words_append, hmiddle, List.mem_append, List.mem_append] at hx
  rcases hx with (hx | hx) | hx
  · exact absurd hvariable (hbefore x hx)
  · rcases List.mem_cons.mp hx with rfl | hx
    · exact absurd hvariable (by decide)
    · exact List.mem_singleton.mp hx
  · exact absurd hvariable (hbehind x hx)

/-! ### The statements of the records -/

/-- The variables of a record. -/
def recordLocals (r : FunctionRecord) : List String :=
  [bindingsVariable r.callSite, functionVariable r.callSite]

/-- The statements of the bindings declare their list, and then only add to it. -/
theorem locals_bindingSteps (r : FunctionRecord) :
    locals (bindingSteps r) = [bindingsVariable r.callSite] := by
  refine congrArg (_ :: ·) (List.filterMap_eq_nil_iff.mpr fun s hs => ?_)
  rw [List.eq_of_mem_replicate hs]
  rfl

/-- A record declares its two variables, that of its bindings first. -/
theorem locals_recordSteps (r : FunctionRecord) : locals (recordSteps r) = recordLocals r := by
  rw [recordSteps, locals_append, locals_bindingSteps]
  rfl

theorem locals_flatMap_recordSteps (records : List FunctionRecord) :
    locals (records.flatMap recordSteps) = records.flatMap recordLocals := by
  rw [locals, List.filterMap_flatMap]
  exact congrArg (records.flatMap ·) (funext locals_recordSteps)

/-- The method declares its list and then the variables of its records. -/
theorem locals_methodSteps (records : List FunctionRecord) :
    locals (methodSteps records) = "metadataList" :: records.flatMap recordLocals := by
  have hreturn : locals [.giveBack resultTokens] = [] := rfl
  rw [methodSteps, locals_append, hreturn, List.append_nil]
  exact congrArg (_ :: ·) (locals_flatMap_recordSteps records)

/-- The statements of a record need the list of the method only: the two variables of the record are
declared in front of their uses. -/
theorem isScoped_recordSteps {known : List String} (h : "metadataList" ∈ known) (r : FunctionRecord) :
    IsScoped known (recordSteps r) := by
  have hnew : ∀ x ∈ words (newListTokens "string"), ¬ IsVariable x := by decide
  have hbindings : IsScoped known (bindingSteps r) := by
    refine ⟨fun x hx hvariable => absurd hvariable (hnew x hx), isScoped_of_forall ?_⟩
    intro s hs x hx _
    rw [List.eq_of_mem_replicate hs] at hx
    exact List.mem_append_right _ hx
  rw [recordSteps, isScoped_append, locals_bindingSteps]
  refine ⟨hbindings, ?_, ?_, trivial⟩
  · -- The only variable of the metadata is the list of bindings declared right before.
    intro x hx hvariable
    rw [eq_of_mem_metadataTokens hx hvariable]
    exact List.mem_append_right _ (List.mem_singleton_self _)
  · intro x hx _
    rcases List.mem_cons.mp hx with rfl | hx
    · exact List.mem_append_left _ (List.mem_append_left _ h)
    · exact List.mem_append_right _ hx

/-- Each record adds its variables to the known ones, and takes none away. -/
theorem isScoped_flatMap_recordSteps {known : List String} (h : "metadataList" ∈ known)
    (records : List FunctionRecord) : IsScoped known (records.flatMap recordSteps) := by
  induction records generalizing known with
  | nil => trivial
  | cons r records ih =>
    rw [List.flatMap_cons, isScoped_append]
    exact ⟨isScoped_recordSteps h r, ih (List.mem_append_left _ h)⟩

/-- Nothing has to be known in front of the method. -/
theorem isScoped_methodSteps (records : List FunctionRecord) : IsScoped [] (methodSteps records) := by
  have hnew : ∀ x ∈ words (newListTokens "IFunctionMetadata"), ¬ IsVariable x := by decide
  have hresult : ∀ x ∈ words resultTokens, IsVariable x → x = "metadataList" := by decide
  have hlist : "metadataList" ∈ ["metadataList"] := List.mem_singleton_self _
  rw [methodSteps, isScoped_append]
  refine ⟨⟨fun x hx hvariable => absurd hvariable (hnew x hx),
    isScoped_flatMap_recordSteps hlist records⟩, ?_, trivial⟩
  intro x hx hvariable
  rw [hresult x hx hvariable]
  exact List.mem_cons_self

/-! ## Names -/

/-- The variables of bindings differ for different positions. -/
theorem bindingsVariable_injective {m n : Nat} (h : bindingsVariable m = bindingsVariable n) :
    m = n :=
  functionVariable_injective ((String.append_left_inj "RawBindings").mp h)

/-- The variables of functions end with a digit, those of bindings do not; so no variable is used
for two things. -/
theorem functionVariable_ne_bindingsVariable (m n : Nat) : functionVariable m ≠ bindingsVariable n := by
  have hvariable : bindingsVariable n = "Function" ++ (number n ++ "RawBindings") := String.append_assoc
  rw [hvariable]
  intro h
  have hdigits := congrArg String.toList ((String.append_right_inj "Function").mp h)
  rw [number, String.toList_ofList, String.toList_append] at hdigits
  have hletter : 's' ∈ Text.digitsOf m := by
    rw [hdigits]
    exact List.mem_append_right _ (by decide)
  exact absurd (Text.isDigit_of_mem_digitsOf hletter) (by decide)

/-- Records of different call sites share no variable, by the two facts above and by the one about
functions. -/
theorem disjoint_recordLocals {r r' : FunctionRecord} (h : r.callSite ≠ r'.callSite) :
    (recordLocals r).Disjoint (recordLocals r') := by
  have hbindings : bindingsVariable r.callSite ≠ bindingsVariable r'.callSite :=
    fun heq => h (bindingsVariable_injective heq)
  have hfunctions : functionVariable r.callSite ≠ functionVariable r'.callSite :=
    fun heq => h (functionVariable_injective heq)
  have hne := functionVariable_ne_bindingsVariable
  simp only [recordLocals, List.disjoint_cons_left, List.mem_cons, List.not_mem_nil, or_false, not_or,
    List.disjoint_nil_left, and_true]
  exact ⟨⟨hbindings, (hne _ _).symm⟩, hne _ _, hfunctions⟩

/-- **Different call sites have different variables**, so that no variable is declared twice in the
method. -/
theorem nodup_flatMap_recordLocals {records : List FunctionRecord}
    (h : (records.map (·.callSite)).Nodup) : (records.flatMap recordLocals).Nodup := by
  rw [List.nodup_flatMap]
  refine ⟨fun r _ => ?_, (List.pairwise_map.mp h).imp disjoint_recordLocals⟩
  have hne : bindingsVariable r.callSite ≠ functionVariable r.callSite :=
    (functionVariable_ne_bindingsVariable _ _).symm
  exact List.nodup_cons.mpr ⟨fun hmem => hne (List.mem_singleton.mp hmem), List.nodup_singleton _⟩

/-- Both variables of a record begin with the same word. -/
theorem function_prefix_of_mem_recordLocals {r : FunctionRecord} {x : String} (hx : x ∈ recordLocals r) :
    "Function".toList <+: x.toList := by
  rcases List.mem_cons.mp hx with rfl | hx
  · rw [bindingsVariable, String.append_assoc, String.toList_append]
    exact List.prefix_append _ _
  · rw [List.mem_singleton.mp hx, functionVariable, String.toList_append]
    exact List.prefix_append _ _

theorem function_prefix_of_mem_flatMap {records : List FunctionRecord} {x : String}
    (hx : x ∈ records.flatMap recordLocals) : "Function".toList <+: x.toList := by
  obtain ⟨r, -, hr⟩ := List.mem_flatMap.mp hx
  exact function_prefix_of_mem_recordLocals hr

/-- All that is declared looks like a variable, so uses of it are not overlooked. -/
theorem isVariable_of_mem_locals {records : List FunctionRecord} {x : String}
    (hx : x ∈ locals (methodSteps records)) : IsVariable x := by
  rw [locals_methodSteps] at hx
  rcases List.mem_cons.mp hx with hx | hx
  · exact Or.inl hx
  · exact Or.inr (function_prefix_of_mem_flatMap hx)

/-! ## The method -/

/-- The statements are written for a record: they declare its two variables, add its bindings to the
one, assign that one to the record in the other, and add the other to the list. -/
def IsWrittenFor (r : FunctionRecord) (steps : List Step) : Prop :=
  ∃ new first last,
    "RawBindings" ∉ words (first ++ last) ∧
    steps =
      .declare (bindingsVariable r.callSite) new ::
        List.replicate r.bindings.length (.add (bindingsVariable r.callSite) .literal) ++
      [.declare (functionVariable r.callSite)
          (first ++ [.word "RawBindings", .symbol '=', .word (bindingsVariable r.callSite)] ++ last),
        .add "metadataList" (.word (functionVariable r.callSite))]

/-- The statements of a method declare and use the variables of the records as they should.  They are
executed from the first to the last. -/
structure IsWellScoped (records : List FunctionRecord) (steps : List Step) : Prop where
  /-- The variables are those of the list and of the records, in their order. -/
  locals_eq : locals steps = "metadataList" :: records.flatMap fun r =>
    [bindingsVariable r.callSite, functionVariable r.callSite]
  /-- No variable is declared twice. -/
  distinct : (locals steps).Nodup
  /-- No variable hides the parameter. -/
  not_parameter : "directory" ∉ locals steps
  /-- A variable that is used is declared in front of the statement. -/
  declared_before : ∀ before s after, steps = before ++ s :: after →
    ∀ x ∈ s.uses, x ∈ locals steps → x ∈ locals before
  /-- Between the first and the last statement, all are written for the records, one group for each. -/
  written : ∃ new groups result,
    steps = .declare "metadataList" new :: groups.flatten ++ [.giveBack result] ∧
    List.Forall₂ IsWrittenFor records groups
  /-- Each record is added to the list once, in the order of the records. -/
  registered : steps.filterMap Step.registered? =
    records.map fun r => .word (functionVariable r.callSite)

/-- The statements that were made for a record are those that are asked for. -/
theorem isWrittenFor_recordSteps (r : FunctionRecord) : IsWrittenFor r (recordSteps r) := by
  have hbefore : "RawBindings" ∉ words fieldsBefore := by decide
  have hretry : "RawBindings" ∉ words (retryTokens r.retry) :=
    fun h => absurd (isRetryWord_retryTokens r.retry _ h) (by decide)
  refine ⟨newListTokens "string", fieldsBefore, fieldsBehind r.retry, ?_, rfl⟩
  rw [words_append, words_fieldsBehind]
  simp only [List.mem_append, List.mem_singleton, not_or]
  exact ⟨hbefore, hretry, by decide⟩

/-- A record registers its own function and nothing else: the bindings are added to a list whose
name is not that of the list of the method. -/
theorem registered?_recordSteps (r : FunctionRecord) :
    (recordSteps r).filterMap Step.registered? = [.word (functionVariable r.callSite)] := by
  have hlist : bindingsVariable r.callSite ≠ "metadataList" := by
    intro h
    have hstart := function_prefix_of_mem_recordLocals (r := r) List.mem_cons_self
    rw [h] at hstart
    exact absurd hstart (by decide)
  have hbindings : (bindingSteps r).filterMap Step.registered? = [] := by
    refine List.filterMap_eq_nil_iff.mpr (List.forall_mem_cons.mpr ⟨rfl, fun s hs => ?_⟩)
    rw [List.eq_of_mem_replicate hs, Step.registered?, if_neg hlist]
  rw [recordSteps, List.filterMap_append, hbindings]
  rfl

/-- Each record is added to the list once, in its turn. -/
theorem registered?_methodSteps (records : List FunctionRecord) :
    (methodSteps records).filterMap Step.registered? =
      records.map fun r => .word (functionVariable r.callSite) := by
  have hreturn : [Step.giveBack resultTokens].filterMap Step.registered? = [] := rfl
  have hrecords : (records.flatMap recordSteps).filterMap Step.registered? =
      records.map fun r => .word (functionVariable r.callSite) := by
    rw [List.filterMap_flatMap, funext registered?_recordSteps, List.map_eq_flatMap]
  rw [methodSteps, List.filterMap_append, hreturn, List.append_nil]
  exact hrecords

/-- **The method of records of different call sites is well scoped.** That the positions differ is
only needed for the declarations, each of which must be the only one of its variable. -/
theorem isWellScoped_methodSteps {records : List FunctionRecord}
    (h : (records.map (·.callSite)).Nodup) : IsWellScoped records (methodSteps records) where
  locals_eq := locals_methodSteps records
  distinct := by
    rw [locals_methodSteps]
    refine List.nodup_cons.mpr ⟨fun hmem => ?_, nodup_flatMap_recordLocals h⟩
    exact absurd (function_prefix_of_mem_flatMap hmem) (by decide)
  not_parameter hmem := absurd (isVariable_of_mem_locals hmem) (by decide)
  declared_before before s after hsplit x hx hlocal :=
    (isScoped_methodSteps records).declared_before hsplit hx (isVariable_of_mem_locals hlocal)
  written := by
    refine ⟨newListTokens "IFunctionMetadata", records.map recordSteps, resultTokens, ?_, ?_⟩
    · rw [methodSteps, List.flatMap_def]
    · exact List.forall₂_map_right_iff.mpr (List.forall₂_same.mpr fun r _ => isWrittenFor_recordSteps r)
  registered := registered?_methodSteps records

/-- **The method of a provider is well scoped.**  An extraction gives each record a position of its own
and the constants of the web stack.  For all such records, whatever else they say, and for any
namespace, the method is a straight line of statements in which every variable is declared once, and
before it is used; the statements of a record use its own variables, and each record is added to the
list once, in its turn. -/
theorem method_is_well_scoped :
    (∀ (assembly : String) (sites : List CallSite) (w : Watch) (found : Extraction),
      ((Extraction.ofCallSites assembly sites).run w).1 = .ok found →
        (found.records.map (·.callSite)).Nodup ∧
        ∀ r ∈ found.records, r.language = FunctionRecord.workerLanguage ∧
          r.entryPoint = FunctionRecord.webEntryPoint) ∧
    ∀ (options : Options) (records : List FunctionRecord),
      (records.map (·.callSite)).Nodup →
      (∀ r ∈ records, r.language = FunctionRecord.workerLanguage ∧
        r.entryPoint = FunctionRecord.webEntryPoint) →
      ∃ steps, methodSteps? (source options records) = some steps ∧ IsWellScoped records steps := by
  constructor
  · intro assembly sites w found h
    rw [(Extraction.ofCallSites_does assembly sites).eq_of_run h]
    exact ⟨Extraction.nodup_callSites assembly sites,
      fun _ hr => Extraction.web_of_mem assembly sites hr⟩
  · intro options records hdistinct hrecords
    exact ⟨methodSteps records, methodSteps?_source options records hrecords,
      isWellScoped_methodSteps hdistinct⟩

/-- Two records whose positions begin with the same digit.  One has no bindings; the name of the other
looks like a statement of the method. -/
def alikeRecords : List FunctionRecord :=
  [.http 1 (some "Function11\"); \x7d") "api" [Binding.response] (.fixedDelay (-1) "0"),
    .http 11 none "api" [] .none]

/-- They are well scoped in a file whose namespace reads like the line that opens the method. -/
theorem method_is_well_scoped_of_alike :
    (alikeRecords.map (·.callSite)).Nodup ∧
    (∀ r ∈ alikeRecords, r.language = FunctionRecord.workerLanguage ∧
      r.entryPoint = FunctionRecord.webEntryPoint) ∧
    ∃ steps, methodSteps? (source ⟨methodHeader, true⟩ alikeRecords) = some steps ∧
      IsWellScoped alikeRecords steps := by
  have hdistinct : (alikeRecords.map (·.callSite)).Nodup := by decide
  have hweb : ∀ r ∈ alikeRecords, r.language = FunctionRecord.workerLanguage ∧
      r.entryPoint = FunctionRecord.webEntryPoint :=
    List.forall_mem_cons.mpr ⟨⟨rfl, rfl⟩, List.forall_mem_singleton.mpr ⟨rfl, rfl⟩⟩
  exact ⟨hdistinct, hweb, method_is_well_scoped.2 ⟨methodHeader, true⟩ alikeRecords hdistinct hweb⟩

end RouteIndex.Provider
