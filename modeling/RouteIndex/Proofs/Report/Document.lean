/-
  What can be read out of a report.

  1. **Sorted records** — the document has its keys sorted at every depth.  That moves the fields of the
     records in it, and each of them is read back all the same (`FunctionRecord.ofJson?_sorted`,
     `Diagnostic.ofJson?_sorted`).
  2. **The document** — it is written without loss (`read?_json`), so that its fields need only be
     looked up (`Json.fields?_sorted`).
  3. **`report_tells_everything`** — the counts, the records and the diagnostics of an inspection are in
     its report, and the intervals that are refused are named there and in the summary alike.
-/

import RouteIndex.Proofs.Json.Sorted
import RouteIndex.Proofs.MetadataText
import RouteIndex.Proofs.Report.Summary

namespace RouteIndex

/-! ## Sorted records -/

namespace RetryPolicy

/-- No field of a policy has keys of its own. -/
theorem toJson_flat (p : RetryPolicy) : ∃ fs, p.toJson = .object fs ∧
    ∀ f ∈ fs, f.2.sorted = f.2 := by
  cases p with
  | none => exact ⟨_, rfl, by simp [Json.text, Json.sorted]⟩
  | fixedDelay count delay => exact ⟨_, rfl, by simp [Json.text, countJson, Json.sorted]⟩
  | exponentialBackoff count low high =>
    exact ⟨_, rfl, by simp [Json.text, countJson, Json.sorted]⟩

theorem ofJson?_sorted (p : RetryPolicy) (levels : Nat) :
    ofJson? (levels + 1) p.toJson.sorted = some p := by
  obtain ⟨fs, hfs, hflat⟩ := p.toJson_flat
  rw [hfs, (isOpen levels).ofJson?_sorted_of_flat hflat, ← hfs, ofJson?_toJson]

end RetryPolicy

namespace Binding

theorem ofJson?_sorted (b : Binding) : ofJson? b.toJson.sorted = some b := by
  rw [toJson, isOpen.ofJson?_sorted_of_flat]
  · exact b.ofJson?_toJson
  · cases b.authLevel <;> cases b.methods <;> simp [Json.text, Json.sorted, Json.sorted_texts]

end Binding

theorem Diagnostic.ofJson?_sorted (d : Diagnostic) (h : d.callSite < 2 ^ 64) :
    ofJson? d.toJson.sorted = some d := by
  rw [toJson, isOpen.ofJson?_sorted_of_flat]
  · exact d.ofJson?_toJson h
  · simp [Json.text, Json.nat, Json.sorted]

/-- A record is read back from its sorted document.  Its own fields have moved, and those of its
bindings and of its policy as well, so sorting is followed into each of them. -/
theorem FunctionRecord.ofJson?_sorted (r : FunctionRecord) (h : r.callSite < 2 ^ 64) :
    ofJson? r.toJson.sorted = some r := by
  -- the bindings and the policy have fields of their own, which have moved as well
  have hbindings : Json.items? Binding.ofJson? (Json.arr (r.bindings.map Binding.toJson)).sorted =
      some r.bindings := by
    rw [Json.sorted_arr, List.map_map]
    exact Json.items?_map Binding.ofJson?_sorted r.bindings
  have hname : (nameJson r.name).sorted = nameJson r.name := by cases r.name <;> rfl
  have hback := r.ofJson?_object h hbindings (r.retry.ofJson?_sorted 125)
  rw [toJson, isOpen.ofJson?_sorted, List.map_cons, List.map_cons, hname]
  exact hback

namespace Report

/-! ## The document -/

theorem isIntegral_functionJson (r : FunctionRecord) : (functionJson r).isIntegral = true := by
  refine Json.isIntegral_object fun f hf => ?_
  simp only [List.mem_cons, List.not_mem_nil, or_false] at hf
  rcases hf with rfl | rfl | rfl
  · rfl
  · exact r.isIntegral_toJson
  · exact Json.isIntegral_texts _

theorem isIntegral_document (i : Generation.Inspection) : (document i).isIntegral = true := by
  refine Json.isIntegral_object fun f hf => ?_
  simp only [List.mem_cons, List.not_mem_nil, or_false] at hf
  rcases hf with rfl | rfl | rfl | rfl
  · rfl
  · rfl
  · exact Json.isIntegral_arr_map isIntegral_functionJson i.records
  · exact Json.isIntegral_arr_map (fun _ => rfl) i.diagnostics

/-- The document is read back with its keys sorted. -/
theorem read?_json (i : Generation.Inspection) : Json.read? (json i) = some (document i).sorted :=
  Json.read?_pretty ((Json.isIntegral_sorted _).trans (isIntegral_document i))

/-! ## What a report tells -/

/-- `Holds p name literal`: the policy keeps the literal of an interval in the field of that name.  One
rule for each field of each policy, apart from the list that a policy makes of them. -/
inductive Holds : RetryPolicy → String → String → Prop
  | delay (count : Int32) (delay : String) :
      Holds (.fixedDelay count delay) "DelayInterval" delay
  | minimum (count : Int32) (low high : String) :
      Holds (.exponentialBackoff count low high) "MinimumInterval" low
  | maximum (count : Int32) (low high : String) :
      Holds (.exponentialBackoff count low high) "MaximumInterval" high

/-- `Refused p names`: the names of the fields whose literals are no intervals, all of them and no
others, in the order in which a policy has its fields. -/
structure Refused (p : RetryPolicy) (names : List String) : Prop where
  in_order : names.Sublist intervalNames
  mem_iff : ∀ name, name ∈ names ↔
    ∃ literal, Holds p name literal ∧ ∃ e, Interval.ofLiteral literal = .error e

/-- A policy determines the list: the order is given, so only membership could differ, and there is
just one answer to that. -/
theorem Refused.unique {p : RetryPolicy} {names names' : List String} (h : Refused p names)
    (h' : Refused p names') : names = names' := by
  have hnodup : intervalNames.Nodup := by decide
  have hplaces : intervalNames.Pairwise fun n m => intervalNames.idxOf n < intervalNames.idxOf m := by
    decide
  have hsame : ∀ name, name ∈ names ↔ name ∈ names' :=
    fun name => (h.mem_iff name).trans (h'.mem_iff name).symm
  have hperm : names.Perm names' := (List.perm_ext_iff_of_nodup (h.in_order.nodup hnodup)
    (h'.in_order.nodup hnodup)).mpr hsame
  exact hperm.eq_of_pairwise (fun n m _ _ hlt hgt => absurd hlt (Nat.lt_asymm hgt))
    (hplaces.sublist h.in_order) (hplaces.sublist h'.in_order)

/-- No policy, no field, no name. -/
theorem Refused.eq_nil {names : List String} (h : Refused .none names) : names = [] := by
  refine List.eq_nil_iff_forall_not_mem.mpr fun name hname => ?_
  obtain ⟨literal, hholds, -⟩ := (h.mem_iff name).mp hname
  cases hholds

/-- The list that a policy makes of its intervals has the fields by the rules above, and no others.
This is where the rules and the program meet. -/
theorem mem_intervals_iff (p : RetryPolicy) {name literal : String} :
    (name, literal) ∈ p.intervals ↔ Holds p name literal := by
  constructor
  · intro h
    cases p with
    | none => cases h
    | fixedDelay count delay =>
      obtain ⟨rfl, rfl⟩ := Prod.mk.inj (List.mem_singleton.mp h)
      exact .delay count literal
    | exponentialBackoff count low high =>
      rcases List.mem_cons.mp h with h | h
      · obtain ⟨rfl, rfl⟩ := Prod.mk.inj h
        exact .minimum count literal high
      · obtain ⟨rfl, rfl⟩ := Prod.mk.inj (List.mem_singleton.mp h)
        exact .maximum count low literal
  · intro h
    cases h with
    | delay => exact List.mem_cons_self
    | minimum => exact List.mem_cons_self
    | maximum => exact List.mem_cons_of_mem _ List.mem_cons_self

/-- The host refuses a literal exactly where reading it as an interval ends with an error. -/
theorem isLiteral_eq_false_iff {literal : String} :
    Interval.isLiteral literal = false ↔ ∃ e, Interval.ofLiteral literal = .error e := by
  unfold Interval.isLiteral
  cases Interval.ofLiteral literal with
  | ok interval => simp
  | error e => simp

/-- A policy's own list of bad intervals meets the specification: it is a filter of its fields, so it
keeps their order, and what passes the filter is what cannot be read. -/
theorem refused_invalidIntervals (p : RetryPolicy) : Refused p p.invalidIntervals where
  in_order := invalidIntervals_sublist p
  mem_iff name := by
    rw [RetryPolicy.invalidIntervals, List.mem_map]
    constructor
    · rintro ⟨⟨name, literal⟩, hmem, rfl⟩
      obtain ⟨hmem, hrefused⟩ := List.mem_filter.mp hmem
      exact ⟨literal, (mem_intervals_iff p).mp hmem,
        isLiteral_eq_false_iff.mp (Bool.not_eq_eq_eq_not.mp hrefused)⟩
    · rintro ⟨literal, hholds, herror⟩
      have hkept : (!Interval.isLiteral literal) = true := by
        rw [isLiteral_eq_false_iff.mpr herror]
        rfl
      exact ⟨(name, literal), List.mem_filter.mpr ⟨(mem_intervals_iff p).mpr hholds, hkept⟩, rfl⟩

/-- An entry of the document for a record: the place of its call site, a value from which all of it is
read, and the names of intervals. -/
def IsEntry (entry : Json) (r : FunctionRecord) (names : List String) : Prop :=
  ∃ metadata, FunctionRecord.ofJson? metadata = some r ∧
    entry.fields? ["index", "metadata", "invalidIntervals"] =
      some [some (.nat r.callSite), some metadata, some (.texts names)]

/-- The entry that is printed for a record is one: the record is read back from it, and the names
are those that the policy itself lists. -/
theorem isEntry_functionJson (r : FunctionRecord) (h : r.callSite < 2 ^ 64) :
    IsEntry (functionJson r).sorted r r.retry.invalidIntervals := by
  refine ⟨r.toJson.sorted, r.ofJson?_sorted h, ?_⟩
  rw [functionJson, Json.fields?_sorted, List.map_cons, List.map_cons, List.map_cons,
    Json.sorted_texts]
  rfl

/-- **A report loses nothing, and names what is refused.**  The document of an inspection has its counts,
its diagnostics, and for every function in its place an entry with the whole record; of all this only
the positions of call sites are read as numbers of sixty-four bits.  The entry names the intervals of the
policy that are refused and no others, in the order of the fields; and the summary marks the line about
its retries with the same names, or not at all if there are none. -/
theorem report_tells_everything (i : Generation.Inspection)
    (hrecords : ∀ r ∈ i.records, r.callSite < 2 ^ 64)
    (hdiagnostics : ∀ d ∈ i.diagnostics, d.callSite < 2 ^ 64) :
    ∃ functions diagnostics,
      (Json.read? (render .json i)).bind
          (·.fields? ["callSites", "nodesVisited", "functions", "diagnostics"]) =
        some [some (.nat i.candidates), some (.nat i.nodesVisited), some (.arr functions),
          some diagnostics] ∧
      Json.items? Diagnostic.ofJson? diagnostics = some i.diagnostics ∧
      functions.length = i.records.length ∧
      render .human i = String.ofList ((summary i).flatMap fun line => line.toList ++ ['\n']) ∧
      ∀ k r, i.records[k]? = some r → ∃ entry names line,
        functions[k]? = some entry ∧ IsEntry entry r names ∧
        Refused r.retry names ∧ (r.retry = .none → names = []) ∧
        (summary i)[3 * k + 8]? = some ("└─ Retry:  " ++ line) ∧
        ∀ marked, (∀ n ∈ marked, n ∈ intervalNames) →
          (Marks ("└─ Retry:  " ++ line) marked ↔ marked ≠ [] ∧ marked = names) := by
  refine ⟨i.records.map fun r => (functionJson r).sorted,
    .arr (i.diagnostics.map fun d : Diagnostic => d.toJson.sorted), ?_, ?_, List.length_map _, rfl, ?_⟩
  · rw [render, read?_json, Option.bind_some, document, Json.fields?_sorted]
    simp only [List.map_cons, Json.sorted_arr, List.map_map]
    rfl
  · -- Sorting the keys moves no diagnostic, and each is read back from its sorted fields.
    have hback : ∀ d ∈ i.diagnostics, Diagnostic.ofJson? d.toJson.sorted = some (id d) :=
      fun d hd => d.ofJson?_sorted (hdiagnostics d hd)
    rw [Json.items?_map_of_mem hback, List.map_id]
  · intro k r hk
    -- The document and the summary flag the one list of names that the specification allows.
    have hrefused := refused_invalidIntervals r.retry
    have hplace := hrecords r (List.mem_of_getElem? hk)
    refine ⟨(functionJson r).sorted, r.retry.invalidIntervals, retrySummary r.retry, ?_,
      isEntry_functionJson r hplace, hrefused, fun hnone => ?_, getElem?_summary i hk,
      fun marked => marks_retryLine_iff r.retry⟩
    · rw [List.getElem?_map, hk, Option.map_some]
    · rw [hnone] at hrefused ⊢
      exact hrefused.eq_nil

/-- A record whose policy has an interval that is none. -/
def recordWithDelay : FunctionRecord :=
  .http 1 none "App" (Binding.forVerb .post) (.fixedDelay 2 "soon")

/-- An inspection with two functions, one of them without a policy. -/
def inspectionWithDelay : Generation.Inspection where
  candidates := 2
  nodesVisited := 9
  records := [.http 0 (some "GET-/a") "App" (Binding.forVerb .get) .none, recordWithDelay]
  diagnostics := [.ofCause 1 (.nonLiteralRoute "MapPost")]

/-- Both hypotheses hold of the inspection, and the bad interval of its policy is named in the entry
of the record and marked in the summary. -/
theorem report_tells_everything_of_delay :
    ((∀ r ∈ inspectionWithDelay.records, r.callSite < 2 ^ 64) ∧
      ∀ d ∈ inspectionWithDelay.diagnostics, d.callSite < 2 ^ 64) ∧
    (∃ entry, IsEntry entry recordWithDelay ["DelayInterval"]) ∧
    ∃ line, (summary inspectionWithDelay)[11]? = some line ∧ Marks line ["DelayInterval"] := by
  have hrecords : ∀ r ∈ inspectionWithDelay.records, r.callSite < 2 ^ 64 := by decide
  have hdiagnostics : ∀ d ∈ inspectionWithDelay.diagnostics, d.callSite < 2 ^ 64 := by decide
  obtain ⟨functions, diagnostics, -, -, -, -, hentries⟩ :=
    report_tells_everything inspectionWithDelay hrecords hdiagnostics
  obtain ⟨entry, names, line, -, hentry, hrefused, -, hline, hmarks⟩ :=
    hentries 1 recordWithDelay rfl
  have hpinned : Refused recordWithDelay.retry ["DelayInterval"] := refused_invalidIntervals _
  obtain rfl : names = ["DelayInterval"] := hrefused.unique hpinned
  exact ⟨⟨hrecords, hdiagnostics⟩, ⟨entry, hentry⟩, _, hline,
    (hmarks _ (by decide)).mpr ⟨List.cons_ne_nil _ _, rfl⟩⟩

end Report

end RouteIndex
