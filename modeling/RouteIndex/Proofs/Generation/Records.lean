/-
  The record and the remarks of each call site.

  A pass reads its call sites one after the other, into a list of records and a list of diagnostics.
  This file goes back from the lists to the call sites.

  1. **Call sites** — those of a pass are the call sites of its trees, tree after tree (`foundIn_eq`).
  2. **Records** — every call site that a scan finds has a verb, so the record at a position is the
     reading of the call site at that position (`Extraction.exists_record_of_getElem?`).
  3. **Diagnostics** — those with the position of a call site are the remarks on this call site
     (`Extraction.filter_callSite_diagnostics`); the induction is on the call sites, with the first
     position left open.
  4. **Passes** — a pass with a unit gives the records and diagnostics of an inspection
     (`eq_of_generated`), and it has a unit unless there is a reason not to (`exists_generated`).
-/

import RouteIndex.Proofs.Generation.Agreement

namespace RouteIndex

open Syntax

/-! ## Call sites -/

/-- The call sites in a tree, in reading order. -/
def Syntax.Tree.callSites (tree : Tree) : List CallSite :=
  (tree.root.places []).filterMap CallSite.ofPlace?

/-- What a pass finds: the call sites of its trees, and as many nodes as they have. -/
theorem Generation.foundIn_eq (trees : List Tree) :
    foundIn trees = ⟨trees.flatMap Tree.callSites, (trees.map fun t => t.root.size).sum⟩ := by
  have hsites : (trees.flatMap fun t => t.root.places []).filterMap CallSite.ofPlace? =
      trees.flatMap Tree.callSites := List.filterMap_flatMap
  rw [foundIn, Findings.foldl_withTree_eq, hsites]
  show (⟨[] ++ _, 0 + _⟩ : Findings) = _
  rw [List.nil_append, Nat.zero_add]

/-! ## One call site -/

namespace CallSite

/-- The name of a record is the route of its call site. -/
theorem IsRecordOf.name_eq {assembly : String} {position : Nat} {site : CallSite} {verb : Verb}
    {r : FunctionRecord} (h : site.IsRecordOf assembly position verb r) : r.name = site.route? := by
  apply Option.ext
  intro text
  rw [h.name, route?_eq_some_iff]

/-- The reading of a call site whose method is looked for. -/
theorem reading_of_mem_methods {site : CallSite} (h : site.method ∈ methods) (assembly : String)
    (position : Nat) :
    ∃ verb r, site.IsRecordOf assembly position verb r ∧
      site.reading assembly position =
        (some r, nameRemarks position site r ++ retryRemarks position site) := by
  have hgives := site.reading_gives assembly position
  generalize site.reading assembly position = reading at hgives ⊢
  obtain ⟨record, remarks⟩ := reading
  cases hgives with
  | excluded hnone =>
    obtain ⟨verb, hverb⟩ := mem_methods_iff.mp h
    rw [hverb] at hnone
    nomatch hnone
  | recorded hverb hrecord => exact ⟨_, _, hrecord, rfl⟩

end CallSite

/-! ## All call sites -/

/-- Where every element gives a value, the values stand at the places of the elements. -/
theorem getElem?_filterMap_of_isSome {α β : Type} {f : α → Option β} {xs : List α}
    (h : ∀ x ∈ xs, (f x).isSome) : ∀ i : Nat, (xs.filterMap f)[i]? = xs[i]?.bind f := by
  induction xs with
  | nil => exact fun _ => rfl
  | cons x xs ih =>
    obtain ⟨hx, hxs⟩ := List.forall_mem_cons.mp h
    obtain ⟨b, hb⟩ := Option.isSome_iff_exists.mp hx
    rw [List.filterMap_cons_some hb]
    intro i
    cases i with
    | zero => exact hb.symm
    | succ i => exact ih hxs i

namespace Extraction

variable (assembly : String) {sites : List CallSite}

/-- **The record at a position is the one of the call site at that position.** -/
theorem exists_record_of_getElem? (h : ∀ site ∈ sites, site.method ∈ CallSite.methods) {i : Nat}
    {site : CallSite} (hsite : sites[i]? = some site) :
    ∃ verb r, (ofSites assembly sites).records[i]? = some r ∧
      site.IsRecordOf assembly i verb r ∧
      site.reading assembly i =
        (some r, CallSite.nameRemarks i site r ++ CallSite.retryRemarks i site) := by
  have hsome : ∀ s ∈ sites.zipIdx, (s.1.reading assembly s.2).1.isSome := by
    intro s hs
    obtain ⟨verb, r, -, hread⟩ :=
      CallSite.reading_of_mem_methods (h s.1 (List.fst_mem_of_mem_zipIdx hs)) assembly s.2
    rw [hread]
    rfl
  have hmem : site ∈ sites := List.mem_of_getElem? hsite
  obtain ⟨verb, r, hrecord, hread⟩ := CallSite.reading_of_mem_methods (h site hmem) assembly i
  refine ⟨verb, r, ?_, hrecord, hread⟩
  rw [ofSites_eq, getElem?_filterMap_of_isSome hsome, List.getElem?_zipIdx, hsite, Nat.zero_add]
  exact congrArg Prod.fst hread

/-- The remarks with a position that no call site has. -/
theorem filter_callSite_of_lt {k n : Nat} (h : n < k) :
    ((sites.zipIdx k).flatMap fun s => (s.1.reading assembly s.2).2).filter (·.callSite = n) = [] := by
  rw [List.filter_eq_nil_iff]
  intro d hd
  obtain ⟨s, hs, hmem⟩ := List.mem_flatMap.mp hd
  have hposition := (s.1.reading_gives assembly s.2).callSite_of_mem hmem
  have hle : k ≤ s.2 := List.le_snd_of_mem_zipIdx hs
  rw [hposition, decide_eq_true_eq]
  omega

/-- The remarks on the call sites from a position on, as far as they have the position of one.  No
two call sites share a position, so these are the remarks on that call site alone. -/
theorem filter_callSite_readings {i : Nat} {site : CallSite} (hsite : sites[i]? = some site)
    (k : Nat) :
    ((sites.zipIdx k).flatMap fun s => (s.1.reading assembly s.2).2).filter
      (·.callSite = k + i) = (site.reading assembly (k + i)).2 := by
  induction sites generalizing i k with
  | nil => nomatch hsite
  | cons first sites ih =>
    have hfirst : ∀ d ∈ (first.reading assembly k).2, d.callSite = k := fun d hd =>
      (first.reading_gives assembly k).callSite_of_mem hd
    rw [List.zipIdx_cons, List.flatMap_cons, List.filter_append]
    -- The diagnostics of a call site carry its index, so those of the first one are told apart.
    cases i with
    | zero =>
      obtain rfl : first = site := Option.some.inj hsite
      have hall : (first.reading assembly k).2.filter (·.callSite = k) =
          (first.reading assembly k).2 :=
        List.filter_eq_self.mpr fun d hd => decide_eq_true (hfirst d hd)
      rw [Nat.add_zero, hall, filter_callSite_of_lt assembly (Nat.lt_succ_self k), List.append_nil]
    | succ i =>
      have hnone : (first.reading assembly k).2.filter (·.callSite = k + (i + 1)) = [] := by
        rw [List.filter_eq_nil_iff]
        intro d hd
        rw [hfirst d hd, decide_eq_true_eq]
        omega
      have hnext : k + (i + 1) = (k + 1) + i := by omega
      rw [hnone, List.nil_append, hnext]
      exact ih hsite (k + 1)

/-- **The diagnostics with the position of a call site are the remarks on this call site.** -/
theorem filter_callSite_diagnostics {i : Nat} {site : CallSite} (hsite : sites[i]? = some site) :
    (ofSites assembly sites).diagnostics.filter (·.callSite = i) =
      (site.reading assembly i).2 := by
  have hreadings := filter_callSite_readings assembly hsite 0
  rw [Nat.zero_add] at hreadings
  rw [ofSites_eq]
  exact hreadings

end Extraction

/-! ## Passes -/

namespace Generation

open Pass

/-- Every call site of the trees has a method that is looked for. -/
theorem method_mem_of_mem_callSites (trees : List Tree) :
    ∀ site ∈ trees.flatMap Tree.callSites, site.method ∈ CallSite.methods := by
  have hfound := method_mem_of_mem_foundIn trees
  rw [foundIn_eq] at hfound
  exact hfound

/-- What a pass extracts. -/
theorem extractedFrom_eq (s : Settings) (trees : List Tree) :
    extractedFrom s trees = Extraction.ofSites s.assemblyName (trees.flatMap Tree.callSites) := by
  rw [extractedFrom, foundIn_eq]

/-- What an inspection gives, told by the call sites of the trees. -/
theorem inspectionOf_eq (s : Settings) (trees : List Tree) :
    inspectionOf s trees =
      ⟨(trees.flatMap Tree.callSites).length, (trees.map fun t => t.root.size).sum,
        (Extraction.ofSites s.assemblyName (trees.flatMap Tree.callSites)).records,
        (Extraction.ofSites s.assemblyName (trees.flatMap Tree.callSites)).diagnostics⟩ := by
  rw [inspectionOf, extractedFrom_eq, foundIn_eq]

variable {progress : Bool} {s : Settings} {trees : List Tree} {w : Watch} {product : Product}

/-- What a pass with a unit gives. -/
theorem eq_of_generated (h : ((generate progress s trees).run w).1 = .ok (.generated product)) :
    product = ⟨.ofSource (Provider.source (providerOptions s) (inspectionOf s trees).records),
      (inspectionOf s trees).records, (inspectionOf s trees).diagnostics⟩ := by
  have houtcome := generate_eq_outcomeOf h
  rw [outcomeOf_eq] at houtcome
  split at houtcome
  · nomatch houtcome
  · split at houtcome
    · nomatch houtcome
    · exact Outcome.generated.inj houtcome

/-- The outcome of a pass that is switched on and finds a call site. -/
theorem exists_outcomeOf_eq_generated (henabled : s.enabled = true)
    (hsites : trees.flatMap Tree.callSites ≠ []) :
    ∃ product, outcomeOf s trees = .generated product ∧
      product.records.length = (trees.flatMap Tree.callSites).length := by
  have hlength := length_records s trees
  have hcandidates : (inspectionOf s trees).candidates ≠ 0 := by
    rw [inspectionOf_eq]
    exact fun h => hsites (List.length_eq_zero_iff.mp h)
  rw [foundIn_eq] at hlength
  rw [outcomeOf_eq, henabled, if_neg (by decide), if_neg hcandidates]
  exact ⟨_, rfl, hlength⟩

/-- A pass that is switched on, finds a call site and is not cancelled has a unit. -/
theorem exists_generated (progress : Bool) (s : Settings) (henabled : s.enabled = true)
    (hsites : trees.flatMap Tree.callSites ≠ []) (hw : w.IsQuiet) :
    ∃ product, ((generate progress s trees).run w).1 = .ok (.generated product) := by
  obtain ⟨product, houtcome, -⟩ := exists_outcomeOf_eq_generated henabled hsites
  rw [generate_of_live (hw.live_after _), houtcome]
  exact ⟨product, rfl⟩

end Generation

end RouteIndex
