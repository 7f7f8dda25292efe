/-
  A pass and an inspection agree, and nothing that was found is dropped.

  1. **Methods** — the methods that a scan looks for are those that have a verb
     (`CallSite.mem_methods_iff`), so each call site that a scan finds gives a record and no warning
     about its verb (`CallSite.Gives.exists_record`).
  2. **Positions** — therefore the records are numbered as the call sites are
     (`Extraction.callSites_of_records`), and there are records wherever there are call sites.
  3. **Inspection** — it does the first two phases of a pass (`inspect_does`), whatever the switch
     says, so its records and diagnostics are those of the pass.
  4. **Outcome** — the outcome of a pass can be told from its inspection (`outcomeOf_eq`); the third
     reason to skip, no records, never applies.
-/

import RouteIndex.Proofs.Degradation
import RouteIndex.Proofs.Generation.Cancellation
import RouteIndex.Proofs.Registrations

namespace RouteIndex

open Syntax

/-! ## Methods -/

namespace CallSite

/-- **The methods that a scan looks for are those that have a verb.** -/
theorem mem_methods_iff {m : String} : m ∈ methods ↔ ∃ v, Verb.ofMethod? m = some v := by
  constructor
  · intro h
    have hmethod : ∃ v : Verb, v.method = m := by
      simp only [methods, List.mem_cons, List.not_mem_nil, or_false] at h
      rcases h with rfl | rfl | rfl | rfl | rfl
      exacts [⟨.get, rfl⟩, ⟨.post, rfl⟩, ⟨.put, rfl⟩, ⟨.delete, rfl⟩, ⟨.patch, rfl⟩]
    obtain ⟨v, rfl⟩ := hmethod
    exact ⟨v, Verb.ofMethod?_method v⟩
  · rintro ⟨v, h⟩
    rw [← Verb.method_of_ofMethod? h]
    cases v <;> decide

/-- A call site whose method has a verb gives a record, and no warning about its verb.  Scanning
looks for no other methods, so a scan that finds something never ends without a record. -/
theorem Gives.exists_record {assembly : String} {position : Nat} {site : CallSite}
    {record : Option FunctionRecord} {ds : List Diagnostic}
    (h : site.Gives assembly position record ds) (hverb : site.method ∈ methods) :
    (∃ r, record = some r ∧ r.callSite = position) ∧ ∀ d ∈ ds, d.code ≠ "FNMETA002" := by
  cases h with
  | excluded hnone =>
    obtain ⟨v, hv⟩ := mem_methods_iff.mp hverb
    rw [hv] at hnone
    nomatch hnone
  | @recorded _ r _ hrecord =>
    refine ⟨⟨r, rfl, hrecord.callSite⟩, fun d hd => ?_⟩
    rcases (of_mem_remarks hd).2 with hcode | hcode
    · rw [hcode]
      decide
    · rw [hcode]
      decide

end CallSite

/-! ## Positions -/

namespace Extraction

variable {assembly : String} {sites : List CallSite}

/-- The positions of the records of some call sites, counted from `k` on. -/
theorem callSites_of_readings (h : ∀ site ∈ sites, site.method ∈ CallSite.methods) (k : Nat) :
    ((sites.zipIdx k).filterMap fun s => (s.1.reading assembly s.2).1).map (·.callSite) =
      List.range' k sites.length := by
  induction sites generalizing k with
  | nil => rfl
  | cons site sites ih =>
    obtain ⟨hsite, hsites⟩ := List.forall_mem_cons.mp h
    obtain ⟨⟨r, hr, hk⟩, -⟩ := (site.reading_gives assembly k).exists_record hsite
    have hcons : ((site :: sites).zipIdx k).filterMap (fun s => (s.1.reading assembly s.2).1) =
        r :: (sites.zipIdx (k + 1)).filterMap fun s => (s.1.reading assembly s.2).1 := by
      rw [List.zipIdx_cons, List.filterMap_cons]
      simp only [hr]
    rw [hcons, List.map_cons, hk, ih hsites, List.length_cons, List.range'_succ]

/-- Where every method is looked for, the records are numbered as the call sites are. -/
theorem callSites_of_records (h : ∀ site ∈ sites, site.method ∈ CallSite.methods) :
    (ofSites assembly sites).records.map (·.callSite) = List.range sites.length := by
  rw [ofSites_eq, List.range_eq_range']
  exact callSites_of_readings h 0

/-- Where every method is looked for, no diagnostic tells of a missing verb. -/
theorem code_ne_of_mem_diagnostics (h : ∀ site ∈ sites, site.method ∈ CallSite.methods) :
    ∀ d ∈ (ofSites assembly sites).diagnostics, d.code ≠ "FNMETA002" := by
  rw [ofSites_eq]
  intro d hd
  obtain ⟨s, hs, hmem⟩ := List.mem_flatMap.mp hd
  have hmethod := h s.1 (List.fst_mem_of_mem_zipIdx hs)
  exact ((s.1.reading_gives assembly s.2).exists_record hmethod).2 d hmem

end Extraction

namespace Generation

open Pass

variable (s : Settings) (trees : List Tree)

/-- Every call site that a scan finds has a method that is looked for. -/
theorem method_mem_of_mem_foundIn :
    ∀ site ∈ (foundIn trees).callSites, site.method ∈ CallSite.methods := by
  intro site hsite
  rw [foundIn, Findings.foldl_withTree_eq] at hsite
  obtain ⟨⟨node, above⟩, -, hplace⟩ := List.mem_filterMap.mp hsite
  obtain ⟨route, handler, hregistration, -⟩ := CallSite.ofPlace?_eq_some_iff.mp hplace
  cases hregistration with
  | call hmethod hitems => exact hmethod

theorem callSites_of_extractedFrom :
    (extractedFrom s trees).records.map (·.callSite) =
      List.range (foundIn trees).callSites.length :=
  Extraction.callSites_of_records (method_mem_of_mem_foundIn trees)

/-! ## Inspection -/

/-- What an inspection gives that is not cancelled. -/
def inspectionOf : Inspection where
  candidates := (foundIn trees).callSites.length
  nodesVisited := (foundIn trees).visited
  records := (extractedFrom s trees).records
  diagnostics := (extractedFrom s trees).diagnostics

/-- An inspection does the first two phases of a pass. -/
theorem inspect_does (progress : Bool) :
    (inspect progress s trees).Does (scanTicks progress trees ++ extractTicks progress s trees)
      (inspectionOf s trees) := by
  have hextract := inPhase_does progress .extract
    (Extraction.ofCallSites_does s.assemblyName (foundIn trees).callSites)
  exact (inPhase_does progress .scan (Findings.gather_does trees)).bind
    (hextract.map fun extracted => (⟨(foundIn trees).callSites.length, (foundIn trees).visited,
      extracted.records, extracted.diagnostics⟩ : Inspection))

/-- An inspection that is not cancelled. -/
theorem inspect_of_quiet {w : Watch} (hw : w.IsQuiet) (progress : Bool) :
    ((inspect progress s trees).run w).1 = .ok (inspectionOf s trees) :=
  congrArg Prod.fst ((inspect_does s trees progress).run_of_live (hw.live_after _))

/-! ## Outcome -/

/-- There are as many records as call sites. -/
theorem length_records :
    (extractedFrom s trees).records.length = (foundIn trees).callSites.length := by
  rw [← List.length_map, callSites_of_extractedFrom, List.length_range]

/-- The outcome of a pass, told from its inspection.  The code has one more reason to skip, a pass
whose call sites give no record; it is not among the cases, as it never occurs. -/
theorem outcomeOf_eq :
    outcomeOf s trees =
      if s.enabled = false then .skipped .disabled
      else if (inspectionOf s trees).candidates = 0 then .skipped .noCandidates
      else .generated
        ⟨.ofSource (Provider.source (providerOptions s) (inspectionOf s trees).records),
          (inspectionOf s trees).records, (inspectionOf s trees).diagnostics⟩ := by
  unfold outcomeOf inspectionOf
  cases s.enabled with
  | false => rfl
  | true =>
    have hrecords := length_records s trees
    -- Every candidate gives a record, so the third reason to skip is never reached.
    by_cases hfound : (foundIn trees).callSites.length = 0
    · have hempty : (foundIn trees).callSites.isEmpty = true := by
        rw [List.isEmpty_iff_length_eq_zero, hfound]
      simp only [hempty, hfound]
      rfl
    · have hsites : ¬ (foundIn trees).callSites.isEmpty = true := by
        rwa [List.isEmpty_iff_length_eq_zero]
      have hnonempty : ¬ (extractedFrom s trees).records.isEmpty = true := by
        rwa [List.isEmpty_iff_length_eq_zero, hrecords]
      simp only [if_neg hfound, if_neg hsites, if_neg hnonempty]
      rfl

/-- **A pass and an inspection agree, and nothing that was found is dropped.**  Unless it is
cancelled, an inspection gives the same with the switch on and off: what the scan has found is its
candidates, and it has one record for each of them, at its position, and no diagnostic of a missing
verb, since the methods that are looked for are those with a verb.  A pass with the switch on gives
the records and diagnostics of the inspection and the provider that is rendered from them, if there
are candidates at all; and no pass, cancelled or not, ends for lack of records. -/
theorem generate_agrees_with_inspect (s : Settings) (trees : List Tree) :
    ∃ (found : Findings) (inspection : Inspection) (source : String),
      (∀ w : Watch, w.IsQuiet → ((Findings.gather trees).run w).1 = .ok found) ∧
      (∀ (progress enabled : Bool) (w : Watch), w.IsQuiet →
        ((inspect progress { s with enabled } trees).run w).1 = .ok inspection) ∧
      inspection.candidates = found.callSites.length ∧
      inspection.nodesVisited = found.visited ∧
      inspection.records.map (·.callSite) = List.range inspection.candidates ∧
      (∀ d ∈ inspection.diagnostics, d.code ≠ "FNMETA002") ∧
      (∀ m, m ∈ CallSite.methods ↔ ∃ v, Verb.ofMethod? m = some v) ∧
      (∀ w : Watch, w.IsQuiet →
        ((Provider.render ⟨s.nameSpace, s.autoRegister⟩ inspection.records).run w).1 =
          .ok source) ∧
      (∀ (progress : Bool) (w : Watch), w.IsQuiet →
        ((generate progress s trees).run w).1 = .ok
          (if s.enabled = false then .skipped .disabled
          else if inspection.candidates = 0 then .skipped .noCandidates
          else .generated
            ⟨.ofSource source, inspection.records, inspection.diagnostics⟩)) ∧
      ∀ (progress : Bool) (w : Watch),
        ((generate progress s trees).run w).1 ≠ .ok (.skipped .noRecords) := by
  refine ⟨foundIn trees, inspectionOf s trees,
    Provider.source (providerOptions s) (inspectionOf s trees).records, ?_, ?_, rfl, rfl,
    callSites_of_extractedFrom s trees,
    Extraction.code_ne_of_mem_diagnostics (method_mem_of_mem_foundIn trees),
    fun m => CallSite.mem_methods_iff, ?_, ?_, ?_⟩
  · intro w hw
    exact congrArg Prod.fst ((Findings.gather_does trees).run_of_live (hw.live_after _))
  · intro progress enabled w hw
    have hinspect := inspect_does { s with enabled } trees progress
    exact congrArg Prod.fst (hinspect.run_of_live (hw.live_after _))
  · intro w hw
    have hrender := Provider.render_does (providerOptions s) (inspectionOf s trees).records
    exact congrArg Prod.fst (hrender.run_of_live (hw.live_after _))
  · intro progress w hw
    rw [generate_of_live (hw.live_after _), outcomeOf_eq]
  · intro progress w hrun
    -- even a pass that was cancelled gives the outcome of its line or nothing
    have houtcome := generate_eq_outcomeOf hrun
    rw [outcomeOf_eq] at houtcome
    split at houtcome
    · nomatch houtcome
    · split at houtcome
      · nomatch houtcome
      · nomatch houtcome

end Generation

end RouteIndex
