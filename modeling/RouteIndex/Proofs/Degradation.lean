/-
  What an extraction gives for each call site.

  1. **One call site** — `CallSite.Gives` says in full what the call site at a position may give: no
     record and one warning if its method has no verb, else one record and at most two remarks.  The
     reading of a call site gives this (`CallSite.reading_gives`), without looking at the others.
  2. **All call sites** — an extraction is the list of these readings, with the positions counted
     over all call sites, those without a record included (`Extraction.withSites_eq`, by induction on
     the call sites with the first position left open).
  3. **Numbers** — so positions grow along the records and do not fall along the diagnostics, and the
     name that stands in for a route has the number of the diagnostic that tells of it.
     **`Extraction.ofCallSites_degrades`** says all of this.
-/

import RouteIndex.Proofs.Extraction
import RouteIndex.Proofs.Text.Digits
import RouteIndex.Provider.Source

namespace RouteIndex

open Syntax

/-! ## One call site -/

/-- A verb is found by its method. -/
theorem Verb.ofMethod?_method (v : Verb) : Verb.ofMethod? v.method = some v := by
  cases v <;> decide

/-- Only its own method finds a verb. -/
theorem Verb.method_of_ofMethod? {m : String} {v : Verb} (h : Verb.ofMethod? m = some v) :
    v.method = m := by
  have hv := List.find?_some h
  exact of_decide_eq_true hv

namespace CallSite

/-- The policy that the declaration around a call site asks for, if there is one and it is well
formed. -/
def declaredPolicy (site : CallSite) : RetryPolicy :=
  match site.declaration.map RetryAttribute.policyOfDeclaration with
  | some (.ok policy) => policy
  | _ => .none

/-- The record of the call site at a position, when its method has a verb. -/
structure IsRecordOf (assembly : String) (position : Nat) (site : CallSite) (verb : Verb)
    (r : FunctionRecord) : Prop where
  callSite : r.callSite = position
  scriptFile : r.scriptFile = assembly ++ ".dll"
  entryPoint : r.entryPoint = "AspNetIntegration.NoOpTrigger.Run"
  language : r.language = "dotnet-isolated"
  isHttpTrigger : r.isHttpTrigger = true
  bindings : r.bindings =
    [⟨"req", "httpTrigger", .input, some .anonymous, some [verb.token]⟩,
      ⟨"$return", "http", .output, none, none⟩]
  name : ∀ text, r.name = some text ↔
    ∃ route rest, site.arguments = route :: rest ∧ route.kind = .stringLiteral ∧
      route.text = some text
  retry : r.retry = site.declaredPolicy

/-- The remark on a record without a name. -/
def nameRemarks (position : Nat) (site : CallSite) (r : FunctionRecord) : List Diagnostic :=
  if r.name = none then
    [⟨.warning, "FNMETA001", "route argument of '" ++ site.method ++
      "' is not a string literal; a placeholder name is emitted", position⟩]
  else []

/-- The remark on a retry attribute that cannot be read. -/
def retryRemarks (position : Nat) (site : CallSite) : List Diagnostic :=
  match site.declaration.map RetryAttribute.policyOfDeclaration with
  | some (.error a) =>
    [⟨.info, "FNMETA003", "'" ++ a.name ++
      "' arguments are not literals of the expected shape; no retry emitted", position⟩]
  | _ => []

/-- A remark on a record has its position, and is not about the verb: a call site without a verb has
no record to make a remark on. -/
theorem of_mem_remarks {position : Nat} {site : CallSite} {r : FunctionRecord} {d : Diagnostic}
    (hd : d ∈ nameRemarks position site r ++ retryRemarks position site) :
    d.callSite = position ∧ (d.code = "FNMETA001" ∨ d.code = "FNMETA003") := by
  unfold nameRemarks retryRemarks at hd
  rcases List.mem_append.mp hd with hd | hd
  · split at hd
    · rw [List.mem_singleton.mp hd]
      exact ⟨rfl, Or.inl rfl⟩
    · exact (List.not_mem_nil hd).elim
  · split at hd
    · rw [List.mem_singleton.mp hd]
      exact ⟨rfl, Or.inr rfl⟩
    · exact (List.not_mem_nil hd).elim

/-- What the call site at a position gives. -/
inductive Gives (assembly : String) (position : Nat) (site : CallSite) :
    Option FunctionRecord → List Diagnostic → Prop where
  | excluded (hverb : Verb.ofMethod? site.method = none) :
      Gives assembly position site none
        [⟨.warning, "FNMETA002", "'" ++ site.method ++
          "' has no HTTP verb mapping; call site excluded", position⟩]
  | recorded {verb : Verb} {r : FunctionRecord} (hverb : Verb.ofMethod? site.method = some verb)
      (hrecord : IsRecordOf assembly position site verb r) :
      Gives assembly position site (some r)
        (nameRemarks position site r ++ retryRemarks position site)

/-- A call site has a route if its first argument is a string literal with a text.  An expression of
any other kind leaves the function without a name, and that is the only reason for it. -/
theorem route?_eq_some_iff {site : CallSite} {text : String} :
    site.route? = some text ↔ ∃ route rest, site.arguments = route :: rest ∧
      route.kind = .stringLiteral ∧ route.text = some text := by
  unfold route?
  cases site.arguments with
  | nil =>
    constructor
    · intro h
      cases h
    · rintro ⟨route, rest, h, -, -⟩
      cases h
  | cons route rest =>
    rw [List.head?_cons]
    by_cases hkind : route.kind = .stringLiteral
    · rw [Option.filter_some_pos (by simp [hkind]), Option.bind_some]
      constructor
      · exact fun h => ⟨route, rest, rfl, hkind, h⟩
      · rintro ⟨route', rest', h, -, htext⟩
        obtain ⟨rfl, -⟩ := List.cons.inj h
        exact htext
    · rw [Option.filter_some_neg (by simp [hkind]), Option.bind_none]
      constructor
      · exact nofun
      · rintro ⟨route', rest', h, hkind', -⟩
        obtain ⟨rfl, -⟩ := List.cons.inj h
        exact absurd hkind' hkind

/-- What a well-formed policy means for the record and its remarks. -/
theorem declaredPolicy_of_retry_ok {site : CallSite} {policy : RetryPolicy}
    (h : site.retry = .ok policy) (position : Nat) :
    site.declaredPolicy = policy ∧ retryRemarks position site = [] := by
  unfold retry at h
  unfold declaredPolicy retryRemarks
  cases hsite : site.declaration with
  | none =>
    rw [hsite] at h
    exact ⟨Except.ok.inj h, rfl⟩
  | some declaration =>
    rw [hsite] at h
    replace h : RetryAttribute.policyOfDeclaration declaration = .ok policy := h
    rw [Option.map_some, h]
    exact ⟨rfl, rfl⟩

/-- What a malformed policy means for the record and its remarks. -/
theorem declaredPolicy_of_retry_error {site : CallSite} {a : RetryAttribute}
    (h : site.retry = .error a) (position : Nat) :
    site.declaredPolicy = .none ∧
      retryRemarks position site = [Diagnostic.ofCause position (.malformedRetry a.name)] := by
  unfold retry at h
  unfold declaredPolicy retryRemarks
  cases hsite : site.declaration with
  | none =>
    rw [hsite] at h
    nomatch h
  | some declaration =>
    rw [hsite] at h
    replace h : RetryAttribute.policyOfDeclaration declaration = .error a := h
    rw [Option.map_some, h]
    exact ⟨rfl, rfl⟩

/-- The causes for a record without a name are its remarks. -/
theorem map_ofCause_nonLiteralRoute (position : Nat) (site : CallSite) {r : FunctionRecord}
    (h : r.name = site.route?) :
    (if site.route?.isNone then [Diagnostic.Cause.nonLiteralRoute site.method] else []).map
      (Diagnostic.ofCause position) = nameRemarks position site r := by
  unfold nameRemarks
  rw [h]
  cases site.route? with
  | none => rfl
  | some text => rfl

/-- The record that the code makes is the one that is asked for, whatever the policy is: the retry
attribute plays no part in the other fields. -/
theorem isRecordOf_http (assembly : String) (position : Nat) {site : CallSite} {verb : Verb}
    {policy : RetryPolicy} (hpolicy : site.declaredPolicy = policy) :
    IsRecordOf assembly position site verb
      (.http position site.route? assembly (Binding.forVerb verb) policy) where
  callSite := rfl
  scriptFile := rfl
  entryPoint := rfl
  language := rfl
  isHttpTrigger := rfl
  bindings := rfl
  name := fun _ => route?_eq_some_iff
  retry := hpolicy.symm

/-- The record of a call site and its remarks, as they are read at a position. -/
def reading (assembly : String) (position : Nat) (site : CallSite) :
    Option FunctionRecord × List Diagnostic :=
  ((site.read assembly position).1,
    (site.read assembly position).2.map (Diagnostic.ofCause position))

/-- **The reading of a call site is what the call site should give.** The cases are the verb, the
route and the policy of its declaration. -/
theorem reading_gives (assembly : String) (position : Nat) (site : CallSite) :
    site.Gives assembly position (site.reading assembly position).1
      (site.reading assembly position).2 := by
  unfold reading read
  cases hverb : Verb.ofMethod? site.method with
  | none => exact .excluded hverb
  | some verb =>
    cases hretry : site.retry with
    | ok policy =>
      obtain ⟨hpolicy, hremarks⟩ := declaredPolicy_of_retry_ok hretry position
      have hrecord : IsRecordOf assembly position site verb _ :=
        isRecordOf_http assembly position hpolicy
      have hgives := Gives.recorded hverb hrecord
      rw [hremarks, List.append_nil, ← map_ofCause_nonLiteralRoute position site rfl] at hgives
      exact hgives
    -- The remark on the retry attribute follows the one on the route, and both are of the record.
    | error a =>
      obtain ⟨hpolicy, hremarks⟩ := declaredPolicy_of_retry_error hretry position
      have hrecord : IsRecordOf assembly position site verb _ :=
        isRecordOf_http assembly position hpolicy
      have hgives := Gives.recorded hverb hrecord
      rw [hremarks, ← map_ofCause_nonLiteralRoute position site rfl] at hgives
      show Gives _ _ _ _ (List.map _ (_ ++ _))
      rw [List.map_append]
      exact hgives

/-! ## Positions -/

namespace Gives

variable {assembly : String} {position : Nat} {site : CallSite} {record : Option FunctionRecord}
  {r : FunctionRecord} {ds : List Diagnostic}

/-- A record has the position of its call site. -/
theorem callSite_of_record (h : site.Gives assembly position (some r) ds) : r.callSite = position := by
  cases h with
  | recorded hverb hrecord => exact hrecord.callSite

/-- A record runs through the web stack, whatever its call site says. -/
theorem web_of_record (h : site.Gives assembly position (some r) ds) :
    r.language = FunctionRecord.workerLanguage ∧ r.entryPoint = FunctionRecord.webEntryPoint := by
  cases h with
  | recorded hverb hrecord => exact ⟨hrecord.language, hrecord.entryPoint⟩

/-- A diagnostic has the position of its call site. -/
theorem callSite_of_mem (h : site.Gives assembly position record ds) {d : Diagnostic} (hd : d ∈ ds) :
    d.callSite = position := by
  cases h with
  | excluded hverb => rw [List.mem_singleton.mp hd]
  | recorded hverb hrecord => exact (of_mem_remarks hd).1

/-- A record without a name comes with a warning. -/
theorem exists_nameless (h : site.Gives assembly position (some r) ds) (hname : r.name = none) :
    ∃ d ∈ ds, d.code = "FNMETA001" ∧ d.callSite = r.callSite := by
  cases h with
  | recorded hverb hrecord =>
    rw [nameRemarks, if_pos hname]
    exact ⟨_, List.mem_append_left _ List.mem_cons_self, rfl, hrecord.callSite.symm⟩

end Gives

end CallSite

/-! ## The name that stands in for a route -/

namespace Provider

/-- Letters and digits are written as they are. -/
theorem escapeChar_of_isAlphanum {c : Char} (h : c.isAlphanum = true) : escapeChar c = [c] := by
  unfold escapeChar
  split
  all_goals first | rfl | exact absurd h (by decide)

theorem flatMap_escapeChar_of_isAlphanum {cs : List Char} (h : ∀ c ∈ cs, c.isAlphanum = true) :
    cs.flatMap escapeChar = cs := by
  induction cs with
  | nil => rfl
  | cons c cs ih =>
    rw [List.flatMap_cons, escapeChar_of_isAlphanum (h c List.mem_cons_self),
      ih fun d hd => h d (List.mem_cons_of_mem c hd), List.singleton_append]

/-- The literal of a name that stands in for a route has nothing to escape, so the unit shows the
number as it is. -/
theorem nameLiteral_none (position : Nat) :
    nameLiteral position none = "\"Function" ++ number position ++ "\"" := by
  have hletters : ∀ c ∈ "Function".toList, c.isAlphanum = true :=
    List.all_eq_true.mp (by rfl)
  -- Nothing in a positional name is escaped: it is letters and digits.
  have hall : ∀ c ∈ (functionVariable position).toList, c.isAlphanum = true := by
    intro c hc
    rw [functionVariable, String.toList_append, List.mem_append] at hc
    rcases hc with hc | hc
    · exact hletters c hc
    · rw [number, String.toList_ofList] at hc
      rw [Char.isAlphanum, Text.isDigit_of_mem_digitsOf hc, Bool.or_true]
  show regularLiteral (functionVariable position) = _
  rw [regularLiteral, flatMap_escapeChar_of_isAlphanum hall, ← String.toList_inj, functionVariable]
  simp only [String.toList_append, String.toList_ofList]
  rfl

/-- The line with that name. -/
theorem nameLine_mem_functionLines {r : FunctionRecord} (h : r.name = none) :
    indent 4 ("Name = \"Function" ++ number r.callSite ++ "\",") ∈ functionLines r := by
  have hline : "Name = " ++ nameLiteral r.callSite r.name ++ "," =
      "Name = \"Function" ++ number r.callSite ++ "\"," := by
    rw [h, nameLiteral_none, ← String.toList_inj]
    simp only [String.toList_append, List.append_assoc]
    rfl
  rw [← hline, functionLines]
  simp

end Provider

/-! ## All call sites -/

namespace Extraction

variable (assembly : String) (sites : List CallSite)

/-- **An extraction is the list of the readings of its call sites**, each at its position.  By
induction over the call sites, with the position and what has been extracted left open. -/
theorem withSites_eq : ∀ (position : Nat) (found : Extraction),
    withSites assembly position found sites =
      ⟨found.records ++ (sites.zipIdx position).filterMap fun s => (s.1.reading assembly s.2).1,
        found.diagnostics ++ (sites.zipIdx position).flatMap fun s =>
          (s.1.reading assembly s.2).2⟩ := by
  induction sites with
  | nil =>
    intro position found
    rw [List.zipIdx_nil, List.filterMap_nil, List.flatMap_nil, List.append_nil, List.append_nil]
    rfl
  | cons site sites ih =>
    intro position found
    rw [withSites, ih, withSite, List.zipIdx_cons, List.flatMap_cons, List.append_assoc,
      List.append_assoc, List.filterMap_cons, CallSite.reading]
    -- A record goes behind those already found, and a site without one leaves them as they are.
    cases (site.read assembly position).1 with
    | none => rfl
    | some r => rfl

/-- The same from the first call site on. -/
theorem ofSites_eq :
    ofSites assembly sites =
      ⟨sites.zipIdx.filterMap fun s => (s.1.reading assembly s.2).1,
        sites.zipIdx.flatMap fun s => (s.1.reading assembly s.2).2⟩ :=
  withSites_eq assembly sites 0 {}

/-- Positions grow along the call sites. -/
theorem pairwise_zipIdx : sites.zipIdx.Pairwise fun s t => s.2 < t.2 := by
  have hrange : (sites.zipIdx.map (·.2)).Pairwise (· < ·) := by
    rw [List.zipIdx_map_snd]
    exact List.pairwise_lt_range'
  exact List.pairwise_map.mp hrange

/-- Positions grow along the records: each reading gives one record at most, at its own position. -/
theorem pairwise_records :
    (ofSites assembly sites).records.Pairwise fun r r' => r.callSite < r'.callSite := by
  have hposition (s : CallSite × Nat) (r : FunctionRecord)
      (hr : (s.1.reading assembly s.2).1 = some r) : r.callSite = s.2 := by
    have hgives := s.1.reading_gives assembly s.2
    rw [hr] at hgives
    exact hgives.callSite_of_record
  rw [ofSites_eq, List.pairwise_filterMap]
  refine (pairwise_zipIdx sites).imp ?_
  intro s t hst r hr r' hr'
  rw [hposition s r hr, hposition t r' hr']
  exact hst

/-- No two records have one position. -/
theorem nodup_callSites : ((ofSites assembly sites).records.map (·.callSite)).Nodup :=
  List.pairwise_map.mpr ((pairwise_records assembly sites).imp Nat.ne_of_lt)

/-- All records run through the web stack. -/
theorem web_of_mem {r : FunctionRecord} (hr : r ∈ (ofSites assembly sites).records) :
    r.language = FunctionRecord.workerLanguage ∧ r.entryPoint = FunctionRecord.webEntryPoint := by
  rw [ofSites_eq] at hr
  obtain ⟨s, -, hread⟩ := List.mem_filterMap.mp hr
  have hgives := s.1.reading_gives assembly s.2
  rw [hread] at hgives
  exact hgives.web_of_record

/-- Positions do not fall along the diagnostics; one call site may have two of them. -/
theorem pairwise_diagnostics :
    (ofSites assembly sites).diagnostics.Pairwise fun d d' => d.callSite ≤ d'.callSite := by
  have hposition (s : CallSite × Nat) (d : Diagnostic) (hd : d ∈ (s.1.reading assembly s.2).2) :
      d.callSite = s.2 :=
    (s.1.reading_gives assembly s.2).callSite_of_mem hd
  rw [ofSites_eq, List.pairwise_flatMap]
  refine ⟨fun s _ => ?_, (pairwise_zipIdx sites).imp ?_⟩
  · refine List.pairwise_of_forall_mem_list fun d hd d' hd' => ?_
    exact Nat.le_of_eq ((hposition s d hd).trans (hposition s d' hd').symm)
  · intro s t hst d hd d' hd'
    rw [hposition s d hd, hposition t d' hd']
    exact Nat.le_of_lt hst

/-- A record without a name has a warning with its position among the diagnostics, namely that of
the same reading. -/
theorem exists_diagnostic_of_nameless {r : FunctionRecord}
    (hr : r ∈ (ofSites assembly sites).records) (hname : r.name = none) :
    ∃ d ∈ (ofSites assembly sites).diagnostics,
      d.code = "FNMETA001" ∧ d.callSite = r.callSite := by
  rw [ofSites_eq] at hr ⊢
  obtain ⟨s, hs, hread⟩ := List.mem_filterMap.mp hr
  have hgives := s.1.reading_gives assembly s.2
  rw [hread] at hgives
  obtain ⟨d, hd, hcode, hposition⟩ := hgives.exists_nameless hname
  exact ⟨d, List.mem_flatMap.mpr ⟨s, hs, hd⟩, hcode, hposition⟩

/-- **An extraction degrades call site by call site.**  The reading of a call site at a position does
not depend on the other call sites, and an extraction is made of the readings of its call sites, in
their order.  So the positions grow along the records and do not fall along the diagnostics; and where
a record has no name, the unit names the function after the position that the warning tells. -/
theorem ofCallSites_degrades :
    (∀ (position : Nat) (site : CallSite),
      site.Gives assembly position (site.reading assembly position).1
        (site.reading assembly position).2) ∧
    ∀ w : Watch, w.IsQuiet → ∃ extraction w',
      (ofCallSites assembly sites).run w = (.ok extraction, w') ∧
      extraction.records = sites.zipIdx.filterMap (fun s => (s.1.reading assembly s.2).1) ∧
      extraction.diagnostics = sites.zipIdx.flatMap (fun s => (s.1.reading assembly s.2).2) ∧
      extraction.records.Pairwise (fun r r' => r.callSite < r'.callSite) ∧
      extraction.diagnostics.Pairwise (fun d d' => d.callSite ≤ d'.callSite) ∧
      ∀ r ∈ extraction.records, r.name = none → ∃ d ∈ extraction.diagnostics,
        d.code = "FNMETA001" ∧ d.callSite = r.callSite ∧
        Provider.indent 4 ("Name = \"Function" ++ Provider.number d.callSite ++ "\",") ∈
          Provider.functionLines r := by
  refine ⟨CallSite.reading_gives assembly, fun w hw => ⟨ofSites assembly sites, _,
    (ofCallSites_does assembly sites).run_of_live (hw.live_after _), ?_⟩⟩
  refine ⟨?_, ?_, pairwise_records assembly sites, pairwise_diagnostics assembly sites, ?_⟩
  · rw [ofSites_eq]
  · rw [ofSites_eq]
  · intro r hr hname
    obtain ⟨d, hd, hcode, hposition⟩ := exists_diagnostic_of_nameless assembly sites hr hname
    refine ⟨d, hd, hcode, hposition, ?_⟩
    rw [hposition]
    exact Provider.nameLine_mem_functionLines hname

end Extraction

end RouteIndex
