/-
  Only the relevant parts of the source reach the output.

  Trees that are alike (`Node.Alike`) differ in their paths and in all texts but those of literals,
  attributes and the names of the members that are called.  A pass gives the same for them:

  1. **Call sites** — a visit gives a call site where a visit that is alike gives one, with the same
     method and with arguments and a declaration that are alike (`CallSite.rel_ofVisit?`).  So the
     findings of two scans are alike (`Generation.alike_foundIn`).
  2. **Readings** — the route and the retry policy are read from literals and attributes only.  So call
     sites that are alike are read as the same record, with the same remarks (`CallSite.Alike.read_eq`).
  3. **Outcomes** — behind that point nothing is left of the trees: inspection and outcome are the same
     (`Generation.inspectionOf_eq_of_alike`, `Generation.outcomeOf_eq_of_alike`).
-/

import RouteIndex.Proofs.Generation.Joining
import RouteIndex.Proofs.Syntax.Alike

namespace RouteIndex

open Syntax

/-! ## Call sites -/

/-- Calls of the same method, with arguments and a declaration that are alike. -/
structure CallSite.Alike (site other : CallSite) : Prop where
  method_eq : site.method = other.method
  arguments : List.Forall₂ Node.Alike site.arguments other.arguments
  declaration : Option.Rel Node.Alike site.declaration other.declaration

namespace CallSite

/-- The match reads the name that is called, and counts the arguments.  In this form it only asks
for what is the same, or alike, in trees that are alike. -/
theorem ofVisit?_eq (v : Visit) :
    ofVisit? v = v.node.calledName?.bind fun method =>
      if methods.contains method then
        v.node.callArguments?.bind fun arguments =>
          if arguments.length = argumentCount then some ⟨method, arguments, v.scope⟩ else none
      else none := by
  have hguard {p : Prop} [Decidable p] {α : Type} (x : Option α) :
      ((guard p : Option Unit).bind fun _ => x) = if p then x else none := by
    by_cases hp : p <;> simp [guard, hp]
  by_cases hkind : v.node.kind = .invocation
  · simp only [ofVisit?, Node.calledName?, Node.calledMember?, if_pos hkind, hguard, Option.bind_assoc,
      Option.bind_eq_bind, Option.pure_def]
  · rw [Node.calledName?, Node.calledMember?, if_neg hkind, ofVisit?, guard, if_neg hkind]
    rfl

/-- **Visits that are alike give call sites that are alike**, or none.  The name that is called is
the same, and there are as many arguments. -/
theorem rel_ofVisit? {v u : Visit} (h : v.Alike u) :
    Option.Rel Alike (ofVisit? v) (ofVisit? u) := by
  -- The name that is called is the same, and the texts of the arguments are only counted here.
  rw [ofVisit?_eq, ofVisit?_eq, h.node.calledName?_eq]
  cases u.node.calledName? with
  | none => exact .none
  | some method =>
    rw [Option.bind_some, Option.bind_some]
    split
    · refine rel_bind h.node.callArguments? fun arguments others harguments => ?_
      rw [harguments.length_eq]
      split
      · exact .some ⟨rfl, harguments, h.scope⟩
      · exact .none
    · exact .none

end CallSite

/-! ## Readings -/

namespace RetryAttribute

variable {n m : Node}

/-- Which attribute a node is depends on its kind and its text, and the texts of attributes are
read. -/
theorem ofNode?_eq (h : n.Alike m) : ofNode? n = ofNode? m := by
  unfold ofNode?
  rw [h.kind_eq]
  split
  · rename_i hkind
    rw [h.text_eq (by rw [h.kind_eq, hkind]; rfl)]
  · rfl

/-- A string is read from the text of a literal. -/
theorem string?_eq (h : n.Alike m) : string? n = string? m := by
  unfold string?
  rw [h.kind_eq]
  split
  · rename_i hkind
    exact h.text_eq (by rw [h.kind_eq, hkind]; rfl)
  · rfl

/-- So is an integer. -/
theorem integer?_eq (h : n.Alike m) : integer? n = integer? m := by
  unfold integer?
  rw [h.kind_eq]
  by_cases hkind : m.kind = .numericLiteral
  · rw [h.text_eq (by rw [h.kind_eq, hkind]; rfl)]
  · rw [guard, if_neg hkind]
    rfl

/-- The policy is read from literals, and these have the same text on both sides.  The cases are the
numbers of arguments that an attribute takes. -/
theorem policy?_eq (a : RetryAttribute) {arguments others : List Node}
    (h : List.Forall₂ Node.Alike arguments others) : a.policy? arguments = a.policy? others := by
  -- An attribute takes two arguments or three, and reads each of them by the text of its literal.
  cases h with
  | nil => rfl
  | cons hcount h =>
    cases h with
    | nil => cases a <;> rfl
    | cons hlow h =>
      cases h with
      | nil =>
        cases a with
        | fixedDelay => rw [policy?, policy?, integer?_eq hcount, string?_eq hlow]
        | exponentialBackoff => rfl
      | cons hhigh h =>
        cases h with
        | nil =>
          cases a with
          | fixedDelay => rfl
          | exponentialBackoff =>
            rw [policy?, policy?, integer?_eq hcount, string?_eq hlow, string?_eq hhigh]
        | cons _ _ => cases a <;> rfl

/-- The policy of a declaration is found by looking through its children, which are alike one by
one.  The first attribute that counts stands at the same position on both sides. -/
theorem policyOf_eq {ns ms : List Node} (h : List.Forall₂ Node.Alike ns ms) :
    policyOf ns = policyOf ms := by
  induction h with
  | nil => rfl
  | cons hnm _ ih =>
    rw [policyOf, policyOf, ofNode?_eq hnm, ih]
    simp only [policy?_eq _ hnm.attributeArguments]

end RetryAttribute

namespace CallSite

variable {site other : CallSite}

/-- The route is a literal or it is missing, on both sides: the kind of the first argument is the
same, and the text is the same where the kind is that of a literal. -/
theorem Alike.route?_eq (h : site.Alike other) : site.route? = other.route? := by
  unfold route?
  have harguments := h.arguments
  generalize site.arguments = arguments at harguments ⊢
  generalize other.arguments = others at harguments ⊢
  cases harguments with
  | nil => rfl
  | cons hab _ =>
    -- a filter of one node by its kind is what `string?` does
    rename_i a b _ _
    have hstring (n : Node) : ((some n).filter (·.kind = .stringLiteral)).bind (·.text) =
        RetryAttribute.string? n := by
      rw [RetryAttribute.string?, Option.filter_some]
      by_cases hkind : n.kind = .stringLiteral <;> simp [hkind]
    rw [List.head?_cons, List.head?_cons, hstring, hstring, RetryAttribute.string?_eq hab]

/-- The policy comes from the declaration, and from its attributes only. -/
theorem Alike.retry_eq (h : site.Alike other) : site.retry = other.retry := by
  unfold retry
  have hdeclaration := h.declaration
  generalize site.declaration = declaration at hdeclaration ⊢
  generalize other.declaration = declaration' at hdeclaration ⊢
  cases hdeclaration with
  | some hab => exact RetryAttribute.policyOf_eq hab.children
  | none => rfl

/-- **Call sites that are alike are read alike**: as the same record, with the same remarks.  From
here on nothing is left of the nodes. -/
theorem Alike.read_eq (h : site.Alike other) (assembly : String) (position : Nat) :
    site.read assembly position = other.read assembly position := by
  unfold read
  rw [h.method_eq, h.route?_eq, h.retry_eq]

end CallSite

namespace Extraction

variable (assembly : String)

/-- Reading call site after call site gives the same, whatever has been extracted before. -/
theorem withSites_eq_of_alike {sites others : List CallSite}
    (h : List.Forall₂ CallSite.Alike sites others) (position : Nat) (found : Extraction) :
    withSites assembly position found sites = withSites assembly position found others := by
  induction h generalizing position found with
  | nil => rfl
  | cons hsite _ ih =>
    rw [withSites, withSites, withSite, withSite, hsite.read_eq, ih]

end Extraction

/-! ## Findings -/

/-- As many nodes and call sites, the call sites alike one by one. -/
structure Findings.Alike (found other : Findings) : Prop where
  callSites : List.Forall₂ CallSite.Alike found.callSites other.callSites
  visited_eq : found.visited = other.visited

/-- One more tree on both sides adds as many nodes, and call sites that are alike one by one. -/
theorem Findings.Alike.withTree {found other : Findings} (h : found.Alike other) {t u : Tree}
    (htree : t.root.Alike u.root) : (found.withTree t).Alike (other.withTree u) := by
  have hvisits := Node.alike_preorder t.root u.root htree (.none : Option.Rel Node.Alike none none)
  have hsites := List.rel_filterMap (fun _ _ hv => CallSite.rel_ofVisit? hv) hvisits
  rw [Findings.withTree, Findings.withTree, Walk.visits_start, Walk.visits_start,
    Findings.withVisits_eq, Findings.withVisits_eq]
  refine ⟨List.rel_append h.callSites hsites, ?_⟩
  rw [h.visited_eq, hvisits.length_eq]

namespace Generation

/-- Trees that are alike one by one, wherever they stand. -/
def TreesAlike (trees others : List Tree) : Prop :=
  List.Forall₂ (fun t u => t.root.Alike u.root) trees others

instance : DecidableRel TreesAlike :=
  fun trees others => inferInstanceAs (Decidable (List.Forall₂ _ trees others))

variable {trees others : List Tree}

/-- The findings of two scans are alike, by induction over the trees. -/
theorem alike_foundIn (h : TreesAlike trees others) : (foundIn trees).Alike (foundIn others) :=
  List.rel_foldl (fun _ _ hfound _ _ htree => hfound.withTree htree)
    ⟨List.Forall₂.nil, rfl⟩ h

variable (s : Settings)

/-- **An inspection depends on the relevant texts only**: it counts what is counted alike, and shows
what is read alike. -/
theorem inspectionOf_eq_of_alike (h : TreesAlike trees others) :
    inspectionOf s trees = inspectionOf s others := by
  have hfound := alike_foundIn h
  have hextracted : extractedFrom s trees = extractedFrom s others :=
    Extraction.withSites_eq_of_alike s.assemblyName hfound.callSites 0 {}
  rw [inspectionOf, inspectionOf, hfound.callSites.length_eq, hfound.visited_eq, hextracted]

/-- **So does the outcome of a pass.** -/
theorem outcomeOf_eq_of_alike (h : TreesAlike trees others) :
    outcomeOf s trees = outcomeOf s others := by
  rw [outcomeOf_eq, outcomeOf_eq, inspectionOf_eq_of_alike s h]

/-- The outcome of these trees, unless the pass is cancelled. -/
def Generates (s : Settings) (trees : List Tree) (outcome : Outcome) : Prop :=
  ∀ (progress : Bool) (w : Watch), w.IsQuiet →
    ((generate progress s trees).run w).1 = .ok outcome

theorem generates_outcomeOf : Generates s trees (outcomeOf s trees) :=
  fun _ _ hw => congrArg Prod.fst (generate_of_live (hw.live_after _))

theorem inspects_inspectionOf : Inspects s trees (inspectionOf s trees) :=
  fun progress _ hw => inspect_of_quiet s trees hw progress

/-- Moving trees and rewriting texts that are never read leaves trees that are alike. -/
theorem alike_moved (trees : List Tree) (path : Tree → Option String)
    (f : Option String → Option String) :
    TreesAlike trees (trees.map fun t => t.moved (path t) f) := by
  rw [TreesAlike, List.forall₂_map_right_iff, List.forall₂_same]
  exact fun t _ => t.root.alike_rewrite f

/-- **Only the relevant parts of the source reach the output.**  Trees of the same shapes and kinds
that agree on the texts of literals and attributes and on the names that are called have one and the
same outcome and one and the same inspection; their paths and all other texts do not matter.  So a
file can be moved, and a method or whatever else has a text that is never read can be renamed. -/
theorem generate_depends_on_relevant_text (s : Settings) (trees : List Tree) :
    ∃ (outcome : Outcome) (inspection : Inspection),
      (Generates s trees outcome ∧ Inspects s trees inspection) ∧
      (∀ others, TreesAlike trees others →
        Generates s others outcome ∧ Inspects s others inspection) ∧
      ∀ (path : Tree → Option String) (f : Option String → Option String),
        let moved := trees.map fun t => t.moved (path t) f
        Generates s moved outcome ∧ Inspects s moved inspection := by
  have hsame (others : List Tree) (h : TreesAlike trees others) :
      Generates s others (outcomeOf s trees) ∧ Inspects s others (inspectionOf s trees) := by
    rw [outcomeOf_eq_of_alike s h, inspectionOf_eq_of_alike s h]
    exact ⟨generates_outcomeOf s, inspects_inspectionOf s⟩
  exact ⟨outcomeOf s trees, inspectionOf s trees, ⟨generates_outcomeOf s, inspects_inspectionOf s⟩,
    hsame, fun path f => hsame _ (alike_moved trees path f)⟩

/-- A registration in a method with a retry attribute; what does not matter is left open. -/
def registeredIn (method receiver : String) (handler : Option String) : Node :=
  Build.declaration method
    [Build.attributeNode "FixedDelayRetry" [Build.numericLiteral 3, Build.stringLiteral "00:00:05"]]
    [Build.invocation (Build.memberAccess (Build.identifier receiver) "MapGet")
      [Build.stringLiteral "/orders", ⟨.lambda, handler, []⟩]]

theorem generate_depends_on_relevant_text_renamed :
    let s := Settings.ofAssembly "Shop"
    let first : Tree := ⟨1, some "Startup.cs", registeredIn "Configure" "app" none⟩
    let second : Tree := ⟨1, none, registeredIn "MapOrders" "routes" (some "() => 1")⟩
    TreesAlike [first] [second] ∧ first ≠ second ∧
      ∃ (outcome : Outcome) (inspection : Inspection),
        Generates s [first] outcome ∧ Generates s [second] outcome ∧
        Inspects s [first] inspection ∧ Inspects s [second] inspection ∧
        inspection.records.map (·.retry) = [.fixedDelay 3 "00:00:05"] := by
  intro s first second
  have halike : TreesAlike [first] [second] := by decide
  have hquiet : Watch.live.IsQuiet := ⟨rfl, fun _ => rfl⟩
  obtain ⟨outcome, inspection, ⟨hgenerates, hinspects⟩, hsame, -⟩ :=
    generate_depends_on_relevant_text s [first]
  obtain ⟨hgenerates', hinspects'⟩ := hsame [second] halike
  have hinspection : inspection = inspectionOf s [first] :=
    Except.ok.inj ((hinspects true Watch.live hquiet).symm.trans
      (inspects_inspectionOf s true Watch.live hquiet))
  have hrecords : (inspectionOf s [first]).records.map (·.retry) = [.fixedDelay 3 "00:00:05"] := by
    rw [inspectionOf_eq]
    decide
  exact ⟨halike, by decide, outcome, inspection, hgenerates, hgenerates', hinspects, hinspects',
    hinspection ▸ hrecords⟩

end Generation

end RouteIndex
