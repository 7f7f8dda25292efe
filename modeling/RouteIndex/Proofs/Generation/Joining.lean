/-
  Inspecting two lists of trees is inspecting each of them.

  An inspection counts nodes and call sites over all of its trees, and it numbers the records and the
  diagnostics.  Nothing else goes from one tree to the next, so the inspection of two lists of trees
  is put together from their inspections, with the numbers of the second moved on.

  1. **Numbers** — `later k` moves the number of a record or a diagnostic on by `k`.  The reading of a
     call site at a later position is its reading, moved on (`CallSite.reading_add`).
  2. **Extractions** — therefore the call sites behind some others give what they give by themselves,
     moved on by the number of the others (`Extraction.ofSites_append`).
  3. **Inspections** — with the call sites and the nodes of the trees, which are those of each tree,
     this gives `inspectionOf_append`.  Trees without registrations only add their nodes
     (`inspectionOf_of_blank`).
  4. **`inspect_append`** says both of the passes.
-/

import RouteIndex.Proofs.Generation.Records

namespace RouteIndex

open Syntax

/-! ## Numbers -/

/-- The record of a call site that stands `k` further back. -/
def FunctionRecord.later (k : Nat) (r : FunctionRecord) : FunctionRecord :=
  { r with callSite := r.callSite + k }

/-- The diagnostic on a call site that stands `k` further back. -/
def Diagnostic.later (k : Nat) (d : Diagnostic) : Diagnostic :=
  { d with callSite := d.callSite + k }

namespace CallSite

/-- **A call site is read at a later position as at an earlier one**, up to the numbers: its record
and its remarks are the same, each moved on by as many positions. -/
theorem reading_add (assembly : String) (position k : Nat) (site : CallSite) :
    site.reading assembly (position + k) =
      ((site.reading assembly position).1.map (·.later k),
        (site.reading assembly position).2.map (·.later k)) := by
  have hcauses : (site.read assembly (position + k)).2 = (site.read assembly position).2 := by
    unfold read
    cases Verb.ofMethod? site.method with
    | none => rfl
    | some verb => cases site.retry <;> rfl
  have hrecord : (site.read assembly (position + k)).1 =
      (site.read assembly position).1.map (·.later k) := by
    unfold read
    cases Verb.ofMethod? site.method with
    | none => rfl
    | some verb => cases site.retry <;> rfl
  rw [reading, reading, hcauses, hrecord, List.map_map]
  rfl

end CallSite

/-! ## Extractions -/

/-- Positions that begin at `k` are those that begin at zero, moved on by `k`. -/
theorem zipIdx_eq_map_zipIdx {α : Type} (xs : List α) (k : Nat) :
    xs.zipIdx k = xs.zipIdx.map (Prod.map id (· + k)) := by
  rw [List.map_snd_add_zipIdx_eq_zipIdx, Nat.add_zero]

namespace Extraction

variable (assembly : String)

/-- The records of some call sites whose positions begin at `k`. -/
theorem records_zipIdx (sites : List CallSite) (k : Nat) :
    (sites.zipIdx k).filterMap (fun s => (s.1.reading assembly s.2).1) =
      (sites.zipIdx.filterMap fun s => (s.1.reading assembly s.2).1).map (·.later k) := by
  rw [zipIdx_eq_map_zipIdx, List.filterMap_map, List.map_filterMap]
  refine List.filterMap_congr fun s _ => ?_
  exact congrArg Prod.fst (s.1.reading_add assembly s.2 k)

/-- The diagnostics on some call sites whose positions begin at `k`. -/
theorem diagnostics_zipIdx (sites : List CallSite) (k : Nat) :
    (sites.zipIdx k).flatMap (fun s => (s.1.reading assembly s.2).2) =
      (sites.zipIdx.flatMap fun s => (s.1.reading assembly s.2).2).map (·.later k) := by
  rw [zipIdx_eq_map_zipIdx, List.flatMap_map, List.map_flatMap]
  refine List.flatMap_congr fun s _ => ?_
  exact congrArg Prod.snd (s.1.reading_add assembly s.2 k)

/-- **Call sites behind some others give what they give by themselves**, moved on. -/
theorem ofSites_append (first second : List CallSite) :
    ofSites assembly (first ++ second) =
      ⟨(ofSites assembly first).records ++
          (ofSites assembly second).records.map (·.later first.length),
        (ofSites assembly first).diagnostics ++
          (ofSites assembly second).diagnostics.map (·.later first.length)⟩ := by
  rw [ofSites_eq, ofSites_eq, ofSites_eq, List.zipIdx_append, List.filterMap_append,
    List.flatMap_append, Nat.zero_add, records_zipIdx assembly second first.length,
    diagnostics_zipIdx assembly second first.length]

end Extraction

/-! ## Inspections -/

namespace Generation

open Pass

/-- An inspection and another one behind it, with the numbers of the second moved on. -/
def Inspection.append (a b : Inspection) : Inspection where
  candidates := a.candidates + b.candidates
  nodesVisited := a.nodesVisited + b.nodesVisited
  records := a.records ++ b.records.map (·.later a.candidates)
  diagnostics := a.diagnostics ++ b.diagnostics.map (·.later a.candidates)

variable (s : Settings)

theorem inspectionOf_append (first second : List Tree) :
    inspectionOf s (first ++ second) = (inspectionOf s first).append (inspectionOf s second) := by
  rw [inspectionOf_eq, inspectionOf_eq, inspectionOf_eq, List.flatMap_append, List.length_append,
    List.map_append, List.sum_append, Extraction.ofSites_append]
  rfl

/-- A tree in which no registration stands. -/
def IsBlank (tree : Tree) : Prop :=
  ∀ p ∈ tree.root.places [], ∀ method route handler, ¬ IsRegistration p.node method route handler

/-- A tree without registrations has no call sites. -/
theorem callSites_of_isBlank {tree : Tree} (h : IsBlank tree) : tree.callSites = [] := by
  rw [Tree.callSites, List.filterMap_eq_nil_iff]
  intro p hp
  rw [Option.eq_none_iff_forall_ne_some]
  intro site hsite
  obtain ⟨route, handler, hregistration, -⟩ := CallSite.ofPlace?_eq_some_iff.mp hsite
  exact h p hp site.method route handler hregistration

/-- Trees without registrations add nothing but their nodes. -/
theorem inspectionOf_of_blank {blank : List Tree} (h : ∀ t ∈ blank, IsBlank t) :
    inspectionOf s blank = ⟨0, (blank.map fun t => t.root.size).sum, [], []⟩ := by
  have hsites : blank.flatMap Tree.callSites = [] :=
    List.flatMap_eq_nil_iff.mpr fun t ht => callSites_of_isBlank (h t ht)
  rw [inspectionOf_eq, hsites]
  rfl

/-- An inspection that has found nothing but nodes, in between two others. -/
theorem Inspection.append_blank_append (a b : Inspection) (n : Nat) :
    (a.append ⟨0, n, [], []⟩).append b =
      { a.append b with nodesVisited := (a.append b).nodesVisited + n } := by
  have hnodes : a.nodesVisited + n + b.nodesVisited = a.nodesVisited + b.nodesVisited + n := by
    omega
  simp only [append, List.map_nil, List.append_nil, Nat.add_zero, hnodes]

/-- The inspection of these trees, unless it is cancelled. -/
def Inspects (s : Settings) (trees : List Tree) (inspection : Inspection) : Prop :=
  ∀ (progress : Bool) (w : Watch), w.IsQuiet →
    ((inspect progress s trees).run w).1 = .ok inspection

/-- **Trees are inspected one by one.**  The inspection of two lists of trees is the inspection of the
first, followed by the inspection of the second: the candidates and the nodes are added, and the
records and diagnostics of the second are moved on by the candidates of the first and otherwise stay as
they are.  Trees without registrations change nothing but the number of nodes, wherever they stand. -/
theorem inspect_append (s : Settings) (first second : List Tree) :
    ∃ a b : Inspection, Inspects s first a ∧ Inspects s second b ∧
      Inspects s (first ++ second) (a.append b) ∧
      ∀ blank : List Tree, (∀ t ∈ blank, IsBlank t) →
        Inspects s (first ++ blank ++ second)
          { a.append b with
            nodesVisited := (a.append b).nodesVisited + (blank.map fun t => t.root.size).sum } := by
  refine ⟨inspectionOf s first, inspectionOf s second,
    fun progress w hw => inspect_of_quiet s first hw progress,
    fun progress w hw => inspect_of_quiet s second hw progress, ?_, ?_⟩
  · intro progress w hw
    rw [inspect_of_quiet s _ hw, inspectionOf_append]
  · intro blank hblank progress w hw
    rw [inspect_of_quiet s _ hw, inspectionOf_append, inspectionOf_append,
      inspectionOf_of_blank s hblank, Inspection.append_blank_append]

end Generation

end RouteIndex
