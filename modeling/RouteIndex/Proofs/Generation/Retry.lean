/-
  The retry policies of the functions of a pass.

  A declaration asks for a policy by the first of its attributes that is a retry attribute, and a
  function is called again as the nearest declaration around its registration asks for.

  1. **Places** — `AskedAbove` looks at the nodes above a place up to the first declaration and no
     further; what a declaration asks for is `RetryAttribute.Asks`.  A scan hands the same declaration
     to the call site (`askedAbove_iff`).
  2. **`generate_retries_as_nearest_asks`** — so the record of each registration, and the remark on
     it, are what is asked for above the place of the registration.  A declaration further out is not
     looked at, even if the nearest one does not ask for anything
     (`outer_retry_hidden_by_declaration`).
-/

import RouteIndex.Proofs.Generation.Records
import RouteIndex.Proofs.RetryAttribute

namespace RouteIndex

open Syntax

/-! ## Places -/

/-- What is asked for above a place, whose nearest node comes first: what the nearest declaration
asks for, whatever stands further out. -/
inductive AskedAbove : List Node → Except RetryAttribute RetryPolicy → Prop where
  | outside {above : List Node} (h : ∀ n ∈ above, n.kind ≠ .declaration) :
      AskedAbove above (.ok .none)
  | within {inner outer : List Node} {d : Node} {result : Except RetryAttribute RetryPolicy}
      (hinner : ∀ n ∈ inner, n.kind ≠ .declaration) (hd : d.kind = .declaration)
      (hasks : RetryAttribute.Asks d.children result) : AskedAbove (inner ++ d :: outer) result

/-- What is asked for above a place is what is read for the call site there.  Only the nearest
declaration counts: of two ways to split the ancestors at one, both have to be at the first. -/
theorem askedAbove_iff {site : CallSite} {above : List Node}
    (hsite : site.declaration = above.find? (·.kind = .declaration))
    {result : Except RetryAttribute RetryPolicy} :
    AskedAbove above result ↔ site.retry = result := by
  unfold CallSite.retry
  cases hfind : above.find? (·.kind = .declaration) with
  | none =>
    rw [hsite, hfind]
    have houtside : ∀ n ∈ above, n.kind ≠ .declaration := fun n hn hkind =>
      List.find?_eq_none.mp hfind n hn (decide_eq_true hkind)
    constructor
    · intro h
      cases h with
      | outside _ => rfl
      | @within inner outer d _ _ hd _ =>
        exact absurd hd (houtside d (List.mem_append_right inner List.mem_cons_self))
    · rintro rfl
      exact .outside houtside
  | some d =>
    rw [hsite, hfind]
    obtain ⟨hd, inner, outer, rfl, hinner⟩ := List.find?_eq_some_iff_append.mp hfind
    replace hd : d.kind = .declaration := of_decide_eq_true hd
    replace hinner : ∀ n ∈ inner, n.kind ≠ .declaration := fun n hn hkind => by
      have hnot := hinner n hn
      rw [decide_eq_true hkind] at hnot
      nomatch hnot
    show _ ↔ RetryAttribute.policyOf d.children = result
    rw [← RetryAttribute.asks_iff]
    constructor
    · intro h
      generalize hall : inner ++ d :: outer = above at h
      cases h with
      | outside h =>
        rw [← hall] at h
        exact absurd hd (h d (List.mem_append_right inner List.mem_cons_self))
      | @within inner' outer' d' _ hinner' hd' hasks =>
        -- both are the first declaration of the same list
        have hfirst : (inner' ++ d' :: outer').find? (·.kind = .declaration) = some d' :=
          List.find?_eq_some_iff_append.mpr ⟨decide_eq_true hd', inner', outer', rfl, fun n hn => by
            rw [decide_eq_false (hinner' n hn)]
            rfl⟩
        rw [← hall, hfind] at hfirst
        rw [Option.some.inj hfirst]
        exact hasks
    · exact .within hinner hd

/-! ## Passes -/

namespace Generation

open Pass

/-- The places of the registrations in some trees, in reading order. -/
def registrations (trees : List Tree) : List Place :=
  (trees.flatMap fun t => t.root.places []).filter fun p => (CallSite.ofPlace? p).isSome

/-- The remarks on the retry attribute of the call site at a position. -/
def retryRemarksAt (position : Nat) (ds : List Diagnostic) : List Diagnostic :=
  ds.filter fun d => d.callSite = position ∧ d.code = "FNMETA003"

/-- A record and the diagnostics beside it show what was asked for: a policy stands in the record,
and a malformed attribute is told in one remark. -/
def Shows (position : Nat) (r : FunctionRecord) (ds : List Diagnostic) :
    Except RetryAttribute RetryPolicy → Prop
  | .ok policy => r.retry = policy ∧ retryRemarksAt position ds = []
  | .error a => r.retry = .none ∧ retryRemarksAt position ds =
      [⟨.info, "FNMETA003", "'" ++ a.name ++
        "' arguments are not literals of the expected shape; no retry emitted", position⟩]

/-- The call sites of a pass are those at its registrations. -/
theorem callSites_eq_filterMap (trees : List Tree) :
    trees.flatMap Tree.callSites = (registrations trees).filterMap CallSite.ofPlace? := by
  have hsome (p : Place) : (if (CallSite.ofPlace? p).isSome then CallSite.ofPlace? p else none) =
      CallSite.ofPlace? p := by
    cases CallSite.ofPlace? p <;> rfl
  rw [registrations, List.filterMap_filter]
  simp only [hsome]
  rw [List.filterMap_flatMap]
  rfl

/-- The call site at a registration. -/
theorem exists_callSite_of_registration {trees : List Tree} {i : Nat} {p : Place}
    (hp : (registrations trees)[i]? = some p) :
    ∃ site, CallSite.ofPlace? p = some site ∧
      (trees.flatMap Tree.callSites)[i]? = some site := by
  have hsome : ∀ p ∈ registrations trees, (CallSite.ofPlace? p).isSome := fun p hp =>
    (List.mem_filter.mp hp).2
  obtain ⟨site, hsite⟩ := Option.isSome_iff_exists.mp (hsome p (List.mem_of_getElem? hp))
  refine ⟨site, hsite, ?_⟩
  rw [callSites_eq_filterMap, getElem?_filterMap_of_isSome hsome, hp]
  exact hsite

/-- There are as many records as registrations. -/
theorem length_records_eq (s : Settings) (trees : List Tree) :
    (extractedFrom s trees).records.length = (registrations trees).length := by
  have hsome : ((registrations trees).filterMap CallSite.ofPlace?).length =
      (registrations trees).length :=
    List.filterMap_length_eq_length.mpr fun p hp => (List.mem_filter.mp hp).2
  rw [length_records, foundIn_eq, callSites_eq_filterMap, hsome]

theorem retryRemarksAt_append (position : Nat) (ds es : List Diagnostic) :
    retryRemarksAt position (ds ++ es) = retryRemarksAt position ds ++ retryRemarksAt position es :=
  List.filter_append ds es

/-- Among the remarks on a call site, those on its retry attribute. -/
theorem retryRemarksAt_remarks (position : Nat) (site : CallSite) (r : FunctionRecord) :
    retryRemarksAt position
      (CallSite.nameRemarks position site r ++ CallSite.retryRemarks position site) =
      CallSite.retryRemarks position site := by
  have hname : retryRemarksAt position (CallSite.nameRemarks position site r) = [] := by
    unfold retryRemarksAt CallSite.nameRemarks
    split
    · rw [List.filter_cons_of_neg (by simp), List.filter_nil]
    · rfl
  have hretry : retryRemarksAt position (CallSite.retryRemarks position site) =
      CallSite.retryRemarks position site := by
    unfold retryRemarksAt CallSite.retryRemarks
    split
    · rw [List.filter_cons_of_pos (by simp), List.filter_nil]
    · rfl
  rw [retryRemarksAt_append, hname, hretry, List.nil_append]

/-- Among the diagnostics of all call sites, the remarks on the retry attribute of one of them. -/
theorem retryRemarksAt_diagnostics (assembly : String) {sites : List CallSite} {i : Nat}
    {site : CallSite} {r : FunctionRecord} (hsite : sites[i]? = some site)
    (hread : site.reading assembly i =
      (some r, CallSite.nameRemarks i site r ++ CallSite.retryRemarks i site)) :
    retryRemarksAt i (Extraction.ofSites assembly sites).diagnostics =
      CallSite.retryRemarks i site := by
  have hat (ds : List Diagnostic) :
      retryRemarksAt i ds = retryRemarksAt i (ds.filter (·.callSite = i)) := by
    simp only [retryRemarksAt, List.filter_filter, Bool.decide_and]
    refine List.filter_congr fun d _ => ?_
    cases decide (d.callSite = i) with
    | false => rfl
    | true => exact (Bool.and_true _).symm
  rw [hat, Extraction.filter_callSite_diagnostics assembly hsite, hread]
  exact retryRemarksAt_remarks i site r

/-- The record of a call site and the remarks on it show the retry policy that is read for it. -/
theorem shows_retry (assembly : String) {sites : List CallSite} {i : Nat} {site : CallSite}
    {verb : Verb} {r : FunctionRecord} (hsite : sites[i]? = some site)
    (hr : site.IsRecordOf assembly i verb r)
    (hread : site.reading assembly i =
      (some r, CallSite.nameRemarks i site r ++ CallSite.retryRemarks i site)) :
    Shows i r (Extraction.ofSites assembly sites).diagnostics site.retry := by
  have hremarks := retryRemarksAt_diagnostics assembly hsite hread
  cases hretry : site.retry with
  | ok policy =>
    obtain ⟨hpolicy, hnone⟩ := CallSite.declaredPolicy_of_retry_ok hretry i
    exact ⟨hr.retry.trans hpolicy, hremarks.trans hnone⟩
  | error a =>
    obtain ⟨hpolicy, hone⟩ := CallSite.declaredPolicy_of_retry_error hretry i
    exact ⟨hr.retry.trans hpolicy, hremarks.trans hone⟩

/-- **A function is called again as the nearest declaration asks for.**  An inspection that is not
cancelled and a pass with a unit give the same records and diagnostics.  There is one record for each
registration, at its position.  Exactly one thing is asked for above the place of the registration: what
the first retry attribute of the nearest declaration gives, whatever the declarations further out are
like, or nothing if there is no such attribute or no declaration.  The record and the diagnostics show
it: a policy as it is, and a malformed attribute by no policy and one remark. -/
theorem generate_retries_as_nearest_asks (s : Settings) (trees : List Tree) :
    ∃ inspection : Inspection,
      (∀ (progress : Bool) (w : Watch), w.IsQuiet →
        ((inspect progress s trees).run w).1 = .ok inspection) ∧
      (∀ (progress : Bool) (w : Watch) (product : Product),
        ((generate progress s trees).run w).1 = .ok (.generated product) →
          product.records = inspection.records ∧ product.diagnostics = inspection.diagnostics) ∧
      inspection.records.length = (registrations trees).length ∧
      ∀ (i : Nat) (p : Place), (registrations trees)[i]? = some p →
        ∃ r result, inspection.records[i]? = some r ∧ r.callSite = i ∧
          (∀ asked, AskedAbove p.above asked ↔ asked = result) ∧
          Shows i r inspection.diagnostics result := by
  refine ⟨inspectionOf s trees, fun progress w hw => inspect_of_quiet s trees hw progress, ?_, ?_, ?_⟩
  · intro progress w product hproduct
    rw [eq_of_generated hproduct]
    exact ⟨rfl, rfl⟩
  · exact length_records_eq s trees
  · intro i p hp
    obtain ⟨site, hplace, hsite⟩ := exists_callSite_of_registration hp
    obtain ⟨_, _, -, -, hdeclaration⟩ := CallSite.ofPlace?_eq_some_iff.mp hplace
    -- A registration calls one of the five methods, so the site at its index gives a record.
    obtain ⟨verb, r, hr, hrecord, hread⟩ :=
      Extraction.exists_record_of_getElem? s.assemblyName (method_mem_of_mem_callSites trees) hsite
    refine ⟨r, site.retry, ?_, hrecord.callSite, fun asked => ?_, ?_⟩
    · rw [inspectionOf_eq]
      exact hr
    · rw [askedAbove_iff hdeclaration]
      exact eq_comm
    · rw [inspectionOf_eq]
      exact shows_retry s.assemblyName hsite hrecord hread

/-- A declaration without attributes that holds a registration. -/
def innerDeclaration : Node :=
  Build.declaration "Inner" [] [Build.mapCall "MapGet" (Build.stringLiteral "/a") (Build.lambda [])]

/-- A declaration with a retry attribute that holds the other declaration. -/
def outerDeclaration : Node :=
  Build.declaration "Outer"
    [Build.attributeNode "FixedDelayRetry" [Build.numericLiteral 5, Build.stringLiteral "00:00:10"]]
    [innerDeclaration]

/-- A file with the two declarations. -/
def nestedDeclarations : List Tree :=
  [.ofRoot (Build.compilationUnit [outerDeclaration])]

/-- **A declaration further out is not looked at.**  The outer declaration asks for five more calls, the
inner one for nothing; the function is not called again. -/
theorem outer_retry_hidden_by_declaration :
    (registrations nestedDeclarations).map (fun p => p.above.filter (·.kind = .declaration)) =
      [[innerDeclaration, outerDeclaration]] ∧
    RetryAttribute.NoneOf innerDeclaration.children ∧
    RetryAttribute.Asks outerDeclaration.children (.ok (.fixedDelay 5 "00:00:10")) ∧
    ∃ inspection,
      ((inspect true (.ofAssembly "Api") nestedDeclarations).run .live).1 = .ok inspection ∧
      inspection.records.map (·.retry) = [.none] ∧ inspection.diagnostics = [] := by
  have hquiet : Watch.live.IsQuiet := ⟨rfl, fun _ => rfl⟩
  have hinner : RetryAttribute.NoneOf innerDeclaration.children :=
    RetryAttribute.noneOf_cons.mpr ⟨rfl, fun n hn => (List.not_mem_nil hn).elim⟩
  refine ⟨by decide, hinner, RetryAttribute.asks_iff.mpr (by decide), _,
    inspect_of_quiet _ _ hquiet true, ?_, ?_⟩
  · rw [inspectionOf_eq]
    decide
  · rw [inspectionOf_eq]
    decide

end Generation

end RouteIndex
