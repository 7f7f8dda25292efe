/-
  The inputs of a command, and what is wrong with them.

  Every input can be judged for itself: the file of properties, each pair, the settings that the
  properties give, and each tree.  What is wrong with all of them, in this order, are the `faults` of
  a request.  Loading stops at the first fault; therefore it fails with the head of the list, and
  without faults it gives everything that was asked for.
-/

import RouteIndex.Proofs.Command.Running

namespace RouteIndex.Command

open Syntax (Tree)

variable {σ : Type} (access : Files.Access (StateM σ))

/-- What `generate` is asked for, and in which environment. -/
structure Request where
  env : Environment
  log : CommandLine.LogOptions
  trees : List String
  assemblyName : Option String
  propertiesFile : Option String
  pairs : List String
  outDir : Option String

/-- The command line of a request. -/
def Request.arguments (r : Request) : CommandLine.Arguments :=
  ⟨r.log, .generate r.trees r.assemblyName r.propertiesFile r.pairs r.outDir⟩

/-! ## One input -/

/-- The text that stands at a path. -/
def textAt (s : σ) (path : String) : Except Files.Error String :=
  ((access.readText path).run s).1

/-- The properties of the file, if one is given. -/
def fileInput (s : σ) : Option String → Except Failure Properties
  | none => .ok .empty
  | some path =>
    match textAt access s path with
    | .error e => .error (.propertiesFile path (some e))
    | .ok text =>
      match PropertiesFile.read? text with
      | some properties => .ok properties
      | none => .error (.propertiesFile path none)

/-- What is wrong with a pair. -/
def pairFault? (pair : String) : Option Failure :=
  match Properties.pair? pair with
  | some _ => none
  | none => some (.property (.notAPair pair))

/-- The tree of a file. -/
def treeInput (s : σ) (path : String) : Except Failure Tree :=
  match textAt access s path with
  | .error e => .error (.treeFile path e)
  | .ok text =>
    match Tree.ofText text with
    | .error e => .error (.tree path e)
    | .ok tree => .ok { tree with path := some (tree.path.getD path) }

/-- What is wrong with an input. -/
def faultOf {α : Type} : Except Failure α → Option Failure
  | .ok _ => none
  | .error fault => some fault

/-! ## All inputs -/

/-- The properties that can be read. -/
def propertiesOf (r : Request) (s : σ) : Properties :=
  ((fileInput access s r.propertiesFile).toOption.getD .empty).merge
    (Properties.empty.insertAll (r.pairs.filterMap Properties.pair?))

/-- The settings that those properties give. -/
def settingsInput (r : Request) (s : σ) : Except Failure Settings :=
  (Settings.resolve r.env (propertiesOf access r s) r.assemblyName).mapError .settings

/-- The trees that can be read. -/
def treesOf (s : σ) (paths : List String) : List Tree :=
  paths.filterMap fun path => (treeInput access s path).toOption

/-- What is wrong with the properties. -/
def propertyFaults (r : Request) (s : σ) : List Failure :=
  (faultOf (fileInput access s r.propertiesFile)).toList ++ r.pairs.filterMap pairFault?

/-- What is wrong with the trees. -/
def treeFaults (s : σ) (paths : List String) : List Failure :=
  paths.filterMap fun path => faultOf (treeInput access s path)

/-- All that is wrong with a request: the file, the pairs, the settings, and the trees. -/
def faults (r : Request) (s : σ) : List Failure :=
  propertyFaults access r s ++ (faultOf (settingsInput access r s)).toList ++
    treeFaults access s r.trees

variable {access} {s : σ}

/-! ### Trees without faults -/

/-- A file with the text of a tree gives this tree, which is told where it lies unless it knows. -/
theorem treeInput_of_text {path text : String} {tree : Tree} (htext : textAt access s path = .ok text)
    (htree : Tree.ofText text = .ok tree) :
    treeInput access s path = .ok { tree with path := some (tree.path.getD path) } := by
  simp only [treeInput, htext, htree]

/-- Without faults among the trees, every path gives a tree, and those are the trees that can be
read. -/
theorem map_treeInput_of_treeFaults {paths : List String} (h : treeFaults access s paths = []) :
    paths.map (treeInput access s) = (treesOf access s paths).map .ok := by
  induction paths with
  | nil => rfl
  | cons path paths ih =>
    rw [treeFaults, List.filterMap_eq_nil_iff, List.forall_mem_cons] at h
    cases hinput : treeInput access s path with
    | error fault =>
      rw [hinput] at h
      exact nomatch h.1
    | ok tree =>
      have htrees : treesOf access s (path :: paths) = tree :: treesOf access s paths :=
        List.filterMap_cons_some (by rw [hinput]; rfl)
      rw [htrees, List.map_cons, List.map_cons, hinput, ih (List.filterMap_eq_nil_iff.mpr h.2)]

/-- If every path gives a tree, nothing is left out of the trees that can be read. -/
theorem treesOf_eq {paths : List String} {trees : List Tree}
    (h : paths.map (treeInput access s) = trees.map .ok) : treesOf access s paths = trees := by
  have hmap : treesOf access s paths =
      (paths.map (treeInput access s)).filterMap Except.toOption := by
    rw [List.filterMap_map]
    rfl
  rw [hmap, h, List.filterMap_map]
  exact List.filterMap_some

/-- If every path gives a tree, no tree has a fault. -/
theorem treeFaults_of_map_treeInput {paths : List String} {trees : List Tree}
    (h : paths.map (treeInput access s) = trees.map .ok) : treeFaults access s paths = [] := by
  have hmap : treeFaults access s paths = (paths.map (treeInput access s)).filterMap faultOf := by
    rw [List.filterMap_map]
    rfl
  rw [hmap, h, List.filterMap_map]
  exact List.filterMap_eq_nil_iff.mpr fun _ _ => rfl

/-! ### Faults of one input and of pairs -/

/-- One input is its fault or its value; the default is never looked at if there is a value. -/
theorem settle_faultOf {α : Type} (input : Except Failure α) (default : α) :
    settle (faultOf input).toList (input.toOption.getD default) = input := by
  cases input <;> rfl

/-- What is made of a value does not change what is wrong. -/
theorem map_settle {α β : Type} (g : α → β) (faults : List Failure) (a : α) :
    settle faults (g a) = (settle faults a).map g := by
  cases faults <;> rfl

/-- The first pair that is none is reported, wherever it stands, and without such a pair all of them
are entries. -/
theorem entriesOfPairs_eq (pairs : List String) :
    (Properties.entriesOfPairs pairs).mapError .property =
      settle (pairs.filterMap pairFault?) (pairs.filterMap Properties.pair?) := by
  induction pairs with
  | nil => rfl
  | cons pair pairs ih =>
    rw [Properties.entriesOfPairs]
    cases h : Properties.pair? pair with
    | none =>
      rw [List.filterMap_cons_some (b := .property (.notAPair pair)) (by rw [pairFault?, h])]
      rfl
    | some entry =>
      -- A pair that is well formed adds no fault, and stands in front of what the rest gives.
      rw [List.filterMap_cons_none (by rw [pairFault?, h]), List.filterMap_cons_some h,
        map_settle (entry :: ·), ← ih]
      cases Properties.entriesOfPairs pairs <;> rfl

/-- The properties of the pairs, or the first pair that is none. -/
theorem ofPairs_eq (pairs : List String) :
    (Properties.ofPairs pairs).mapError .property =
      settle (pairs.filterMap pairFault?)
        (Properties.empty.insertAll (pairs.filterMap Properties.pair?)) := by
  rw [map_settle Properties.empty.insertAll, ← entriesOfPairs_eq, Properties.ofPairs]
  cases Properties.entriesOfPairs pairs <;> rfl

/-! ## Loading -/

variable (hread : ∀ path s, ((access.readText path).run s).2 = s)
include hread

/-- Reading a file gives its text or an error, and the files are as they were. -/
theorem runs_textAt (path : String) :
    (access.readText path).run s = (textAt access s path, s) :=
  Prod.ext rfl (hread path s)

/-- A text is read, and something is made of it.  An error of the files becomes a failure that names
the path, and a text goes on to the reader behind. -/
theorem runs_reading {α : Type} (failure : Files.Error → Failure) (path : String)
    {f : String → Run (StateM σ) α} {input : Except Failure α} {t : Transcript}
    (hfailed : ∀ e, textAt access s path = .error e → input = .error (failure e))
    (hdone : ∀ text, textAt access s path = .ok text → Runs (f text) t s input t s) :
    Runs (attempt failure (access.readText path) >>= f) t s input t s := by
  have htext := runs_attempt (t := t) failure (runs_textAt hread (s := s) path)
  cases h : textAt access s path with
  | error e =>
    rw [h] at htext
    rw [hfailed e h]
    exact htext.bind_error
  | ok text =>
    rw [h] at htext
    exact htext.bind (hdone text h)

/-- The file of properties is read if there is one, and its fault is the only one. -/
theorem fileProperties_reads (file : Option String) :
    Reads (fileProperties access file) s (faultOf (fileInput access s file)).toList
      ((fileInput access s file).toOption.getD .empty) := by
  intro t
  rw [settle_faultOf]
  cases file with
  | none => exact runs_pure Properties.empty
  | some path =>
    refine runs_reading hread (fun e => .propertiesFile path (some e)) path ?_ fun text htext => ?_
    · intro e he
      simp only [fileInput, he]
    · simp only [fileInput, htext]
      cases PropertiesFile.read? text with
      | some properties => exact runs_pure properties
      | none => exact runs_throw _

/-- **The properties are the file with the pairs over it**, and what is wrong with the file comes
before what is wrong with the pairs. -/
theorem loadProperties_reads (r : Request) :
    Reads (loadProperties access r.propertiesFile r.pairs) s (propertyFaults access r s)
      (propertiesOf access r s) := by
  refine (fileProperties_reads hread r.propertiesFile).bind fun _ t => ?_
  have hpairs := ofPairs_eq r.pairs
  rw [propertiesOf, map_settle (Properties.merge _), ← hpairs]
  cases Properties.ofPairs r.pairs with
  | ok properties => exact runs_pure _
  | error e => exact runs_throw _

/-- A tree is loaded as it is judged by itself. -/
theorem loadTree_runs (path : String) (t : Transcript) :
    Runs (loadTree access path) t s (treeInput access s path) t s := by
  refine runs_reading hread (.treeFile path) path ?_ fun text htext => ?_
  · intro e he
    simp only [treeInput, he]
  · simp only [treeInput, htext]
    cases Tree.ofText text with
    | ok tree => exact runs_pure _
    | error e => exact runs_throw _

/-- **The trees are loaded in their order**, up to the first one with a fault.  The induction is
over the paths; the faults of the later ones are only met if the earlier ones have none. -/
theorem loadTrees_reads (paths : List String) :
    Reads (loadTrees access paths) s (treeFaults access s paths) (treesOf access s paths) := by
  induction paths with
  | nil => exact reads_pure s []
  | cons path paths ih =>
    intro t
    have hpath := loadTree_runs hread (s := s) path t
    cases h : treeInput access s path with
    | error fault =>
      rw [h] at hpath
      have hfaults : treeFaults access s (path :: paths) = fault :: treeFaults access s paths :=
        List.filterMap_cons_some (by rw [h]; rfl)
      -- The first tree that cannot be loaded ends the stage, and its fault is the first of the
      -- list.
      rw [hfaults]
      exact hpath.bind_error
    | ok tree =>
      rw [h] at hpath
      have hfaults : treeFaults access s (path :: paths) = treeFaults access s paths :=
        List.filterMap_cons_none (by rw [h]; rfl)
      have htrees : treesOf access s (path :: paths) = tree :: treesOf access s paths :=
        List.filterMap_cons_some (by rw [h]; rfl)
      rw [hfaults, htrees]
      refine hpath.bind ?_
      have hrest : Reads (loadTrees access paths >>= fun trees => pure (tree :: trees)) s
          (treeFaults access s paths ++ []) (tree :: treesOf access s paths) :=
        ih.bind fun _ => reads_pure s _
      rw [List.append_nil] at hrest
      exact hrest t

end RouteIndex.Command
