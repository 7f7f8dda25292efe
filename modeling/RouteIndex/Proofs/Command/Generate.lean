/-
  What `generate` leaves behind.

  1. **Inputs** — without faults, everything that was asked for has been read, and the settings have a
     name and a valid namespace (`exists_isLoaded`).  The pass over the trees is not cancelled, so it
     has an outcome (`exists_gives`).
  2. **Ways to end** — `Ends` is the command as a relation: it fails with the first of its faults, or
     its pass gives nothing, or the unit of the pass is given out.  It always ends in one of these ways
     (`exists_ends`).
  3. **The command** — loading only reads, so with faults the state is the one before
     (`perform_of_faults`); without faults the pass is done and what it gives is delivered
     (`perform_of_passes`).  What is left behind is therefore told by the way in which the command ends
     (`Ends.run_eq`), and **`generate_only_when_complete`** says what that means for the output, the
     files, and the exit code.
-/

import RouteIndex.Proofs.Command.Delivery
import RouteIndex.Proofs.Files.Directories
import RouteIndex.Proofs.Generation.Records
import RouteIndex.Proofs.Settings
import RouteIndex.Proofs.Syntax.TreeText

namespace RouteIndex.Command

open Files (Access Entry Store)
open Syntax (Tree)

variable {σ π : Type} (access : Access (StateM σ)) (look : σ → π → Option Entry)

/-! ## Inputs and pass -/

/-- Everything that was asked for has been read, and the settings can be used. -/
structure IsLoaded (r : Request) (s : σ) (settings : Settings) (trees : List Tree) : Prop where
  noFaults : faults access r s = []
  resolved : Settings.resolve r.env (propertiesOf access r s) r.assemblyName = .ok settings
  named : ∃ c ∈ settings.assemblyName.toList, Text.isBlank c = false
  namespaced : Namespace.isValid settings.nameSpace = true
  loaded : r.trees.map (treeInput access s) = trees.map .ok

/-- The pass over the trees ends with the outcome. -/
def Gives (r : Request) (settings : Settings) (trees : List Tree) (outcome : Generation.Outcome) :
    Prop :=
  ((Generation.generate (!r.log.quiet) settings trees).run .live).1 = .ok outcome

/-- All inputs are good, and the pass over them ends with the outcome. -/
def Passes (r : Request) (s : σ) (outcome : Generation.Outcome) : Prop :=
  ∃ settings trees, IsLoaded access r s settings trees ∧ Gives r settings trees outcome

variable {access} {r : Request} {s s' : σ}

/-- Without faults, everything is loaded: the settings are resolved and valid, and every tree is
read.  This is the way back from the list of faults, which is empty, to the inputs that it is
about. -/
theorem exists_isLoaded (h : faults access r s = []) :
    ∃ settings, IsLoaded access r s settings (treesOf access s r.trees) := by
  have hparts := h
  rw [faults, List.append_eq_nil_iff, List.append_eq_nil_iff] at hparts
  obtain ⟨⟨-, hsettings⟩, htrees⟩ := hparts
  rw [settingsInput] at hsettings
  -- A refused resolution would be a fault of its own, and there is none.
  cases hresolve : Settings.resolve r.env (propertiesOf access r s) r.assemblyName with
  | error e =>
    rw [hresolve] at hsettings
    cases hsettings
  | ok settings =>
    obtain ⟨hnamed, hnamespaced⟩ :=
      Settings.validate_eq_ok_iff.mp (Settings.validate_of_resolve hresolve)
    exact ⟨settings, h, hresolve, hnamed, hnamespaced, map_treeInput_of_treeFaults htrees⟩

/-- A pass of a command is never cancelled. -/
theorem exists_gives (r : Request) (settings : Settings) (trees : List Tree) :
    ∃ outcome, Gives r settings trees outcome := by
  have hquiet : Watch.live.IsQuiet := ⟨rfl, fun _ => rfl⟩
  exact ⟨_, congrArg Prod.fst (Generation.generate_of_live (hquiet.live_after _))⟩

theorem exists_passes (h : faults access r s = []) : ∃ outcome, Passes access r s outcome := by
  obtain ⟨settings, hinputs⟩ := exists_isLoaded h
  obtain ⟨outcome, hgives⟩ := exists_gives r settings (treesOf access s r.trees)
  exact ⟨outcome, settings, _, hinputs, hgives⟩

/-- Whether all inputs are good is told by the list of faults. -/
theorem faults_eq_nil_iff : faults access r s = [] ↔ ∃ outcome, Passes access r s outcome :=
  ⟨exists_passes, fun ⟨_, _, _, hinputs, _⟩ => hinputs.noFaults⟩

/-! ## Ways to end -/

variable (access) in
/-- How `generate` ends: with the first fault of its inputs, with a pass that gives nothing, or with
the unit of a pass that has been given out. -/
inductive Ends (r : Request) (s : σ) : Except Failure Unit → String → σ → Prop
  | refused {fault : Failure} {rest : List Failure} (first : faults access r s = fault :: rest) :
      Ends r s (.error fault) "" s
  | skipped {reason : SkipReason} (pass : Passes access r s (.skipped reason)) :
      Ends r s (.ok ()) "" s
  | delivered {product : Generation.Product} {result : Except Failure Unit} {output : String} {s' : σ}
      (pass : Passes access r s (.generated product))
      (delivery : Delivers access look product.unit r.outDir s result output s') :
      Ends r s result output s'

variable {look}

theorem exists_ends (h : access.Lawful look) (r : Request) (s : σ) :
    ∃ result output s', Ends access look r s result output s' := by
  cases hfaults : faults access r s with
  | cons fault rest => exact ⟨_, _, _, .refused hfaults⟩
  | nil =>
    obtain ⟨outcome, hpass⟩ := exists_passes hfaults
    cases outcome with
    | skipped reason => exact ⟨_, _, _, .skipped hpass⟩
    | generated product =>
      obtain ⟨result, output, s', hdelivery⟩ := exists_delivers h product.unit r.outDir s
      exact ⟨result, output, s', .delivered hpass hdelivery⟩

/-! ## As the command does it -/

theorem runs_logAll (ds : List Diagnostic) (t : Transcript) (s : σ) :
    Runs (ds.forM fun d => log (.diagnosticRaised d)) t s (.ok ())
      { t with events := t.events ++ ds.map .diagnosticRaised } s := by
  induction ds generalizing t with
  | nil =>
    rw [List.map_nil, List.append_nil]
    exact runs_pure ()
  | cons d ds ih =>
    have hrest := ih { t with events := t.events ++ [.diagnosticRaised d] }
    rw [List.append_assoc] at hrest
    exact (runs_log _).bind hrest

variable (access r) in
/-- The arguments of the command, taken from a request. -/
theorem perform_eq : perform access r.env r.arguments =
    generate access r.env r.log.quiet r.trees r.assemblyName r.propertiesFile r.pairs r.outDir :=
  rfl

/-- With faults, the command fails with the first one.  The stages come in the order of the list, so
the first fault of the list is the one that the command meets first, and nothing was delivered yet. -/
theorem perform_of_faults (h : access.Lawful look) {fault : Failure} {rest : List Failure}
    (hfaults : faults access r s = fault :: rest) :
    ∃ t, Runs (perform access r.env r.arguments) {} s (.error fault) t s ∧ t.output = "" := by
  have hproperties := loadProperties_reads h.readText_state (s := s) r {}
  rw [perform_eq, generate]
  rw [faults, List.append_assoc] at hfaults
  cases hfirst : propertyFaults access r s with
  | cons first others =>
    -- what is wrong with the file and the pairs comes before everything else
    rw [hfirst] at hproperties hfaults
    obtain ⟨rfl, -⟩ := List.cons.inj hfaults
    exact ⟨_, hproperties.bind_error, rfl⟩
  | nil =>
    rw [hfirst] at hproperties hfaults
    rw [settingsInput] at hfaults
    cases hresolve : Settings.resolve r.env (propertiesOf access r s) r.assemblyName with
    | error e =>
      rw [hresolve] at hfaults
      obtain ⟨rfl, -⟩ := List.cons.inj hfaults
      refine ⟨{}, hproperties.bind ?_, rfl⟩
      rw [hresolve]
      exact runs_throw (.settings e)
    | ok settings =>
      -- only the trees are left; the switch in the settings is not looked at
      rw [hresolve] at hfaults
      have htrees := loadTrees_reads h.readText_state (s := s) r.trees
      have htreeFaults : treeFaults access s r.trees = fault :: rest := hfaults
      rw [htreeFaults] at htrees
      refine ⟨⟨[.settingsResolved settings.describe], ""⟩, hproperties.bind ?_, rfl⟩
      rw [hresolve]
      exact (runs_log _).bind (htrees _).bind_error

/-- Without faults, the command does its pass and goes on from there.  What follows the pass is left
open as `hrest`, for it is a skip or a delivery, and each of the two has a lemma of its own. -/
theorem perform_of_passes (h : access.Lawful look) {outcome : Generation.Outcome}
    {result : Except Failure Unit} {output : String} (hpass : Passes access r s outcome)
    (hrest : ∀ events, ∃ t, Runs (match outcome with
      | .skipped reason => log (.nothingGenerated reason)
      | .generated product => do
        product.diagnostics.forM fun d => log (.diagnosticRaised d)
        deliver access r.outDir product.unit) ⟨events, ""⟩ s result t s' ∧ t.output = output) :
    ∃ t, Runs (perform access r.env r.arguments) {} s result t s' ∧ t.output = output := by
  obtain ⟨settings, trees, hinputs, hgives⟩ := hpass
  have hnone := hinputs.noFaults
  rw [faults, List.append_eq_nil_iff, List.append_eq_nil_iff] at hnone
  obtain ⟨⟨hpropertyFaults, -⟩, htreeFaults⟩ := hnone
  -- With no faults both readers give what the store holds, and the log is all that grows.
  have hproperties := loadProperties_reads h.readText_state (s := s) r {}
  have htrees := loadTrees_reads h.readText_state (s := s) r.trees
  rw [hpropertyFaults] at hproperties
  rw [htreeFaults, treesOf_eq hinputs.loaded] at htrees
  obtain ⟨w, hrun⟩ : ∃ w, (Generation.generate (!r.log.quiet) settings trees).run .live =
    (.ok outcome, w) := ⟨_, Prod.ext hgives rfl⟩
  obtain ⟨t, ht, houtput⟩ := hrest ([.settingsResolved settings.describe] ++ w.events)
  refine ⟨t, ?_, houtput⟩
  rw [perform_eq, generate]
  refine hproperties.bind ?_
  rw [hinputs.resolved]
  exact (runs_log _).bind ((htrees _).bind ((runs_runPass hrun).bind ht))

theorem Ends.runs (h : access.Lawful look) {result : Except Failure Unit} {output : String}
    (hends : Ends access look r s result output s') :
    ∃ t, Runs (perform access r.env r.arguments) {} s result t s' ∧ t.output = output := by
  cases hends with
  | refused first => exact perform_of_faults h first
  | skipped pass => exact perform_of_passes h pass fun events => ⟨_, runs_log _, rfl⟩
  | delivered pass delivery =>
    refine perform_of_passes h pass fun events => ?_
    obtain ⟨t, hdeliver, houtput⟩ := delivery.runs h _
    exact ⟨t, (runs_logAll _ _ s).bind hdeliver, houtput.trans String.empty_append⟩

/-- What is left behind is told by the way in which the command ends. -/
theorem Ends.run_eq (h : access.Lawful look) {result : Except Failure Unit} {output : String}
    (hends : Ends access look r s result output s') {o : Outcome} {s'' : σ}
    (hrun : (run access r.env r.arguments).run s = (o, s'')) :
    o = outcome result ⟨o.events, o.output⟩ ∧ o.output = output ∧ s'' = s' := by
  obtain ⟨t, hruns, rfl⟩ := hends.runs h
  have hpair : (run access r.env r.arguments).run s = (outcome result t, s') := by
    rw [run, StateT.run_bind, hruns]
    rfl
  obtain ⟨rfl, rfl⟩ := Prod.mk.inj (hrun.symm.trans hpair)
  rw [outcome_events, outcome_output]
  exact ⟨rfl, rfl, rfl⟩

/-! ## The contract -/

/-- Whether delivery fails is told by the exit code: it is 1 exactly if there was a fault in front
of the pass, or the unit of the pass could not be delivered. -/
theorem exitCode_eq_one_iff (h : access.Lawful look) {o : Outcome} {s'' : σ}
    (hrun : (run access r.env r.arguments).run s = (o, s'')) :
    o.exitCode = 1 ↔ faults access r s ≠ [] ∨ ∃ product fault output s',
      Passes access r s (.generated product) ∧
        Delivers access look product.unit r.outDir s (.error fault) output s' := by
  constructor
  · intro hcode
    -- The exit code tells only that the result is an error, so the way the run ended is asked for
    -- next: before the pass with a fault, or after it with a refused delivery.
    obtain ⟨result, output, s', hends⟩ := exists_ends h r s
    obtain ⟨houtcome, -, -⟩ := hends.run_eq h hrun
    cases result with
    | ok =>
      rw [houtcome] at hcode
      cases hcode
    | error fault =>
      cases hends with
      | refused first => exact Or.inl fun hnil => List.cons_ne_nil _ _ (first.symm.trans hnil)
      | delivered pass delivery => exact Or.inr ⟨_, _, _, _, pass, delivery⟩
  · intro hfails
    have hends : ∃ fault output s', Ends access look r s (.error fault) output s' := by
      rcases hfails with hfaults | ⟨product, fault, output, s', hpass, hdelivery⟩
      · obtain ⟨fault, rest, hcons⟩ := List.exists_cons_of_ne_nil hfaults
        exact ⟨fault, _, _, .refused hcons⟩
      · exact ⟨fault, output, s', .delivered hpass hdelivery⟩
    obtain ⟨fault, output, s', hends⟩ := hends
    rw [(hends.run_eq h hrun).1]
    rfl

/-- **`generate` gives something out only for a complete and valid pass.**  Whatever files are like
that can be accessed lawfully, whatever is asked for, and in whatever environment:

Without faults of the inputs there is a pass.  Unless it gives a unit, nothing is printed and the files
are as before.  If it does, the source of the unit is delivered, and that is all: as the output, or to
the file of the unit in the directory, which is left alone if it has the digest already.  With faults,
the first one is reported and the exit code is 1.  A pass that is skipped ends with the exit code 0.
The exit code is 1 only for a fault of the inputs and for a delivery that fails. -/
theorem generate_only_when_complete (h : access.Lawful look) (r : Request) (s : σ) :
    ∃ o s', (run access r.env r.arguments).run s = (o, s') ∧
      (faults access r s = [] ↔ ∃ outcome, Passes access r s outcome) ∧
      ((¬ ∃ product, Passes access r s (.generated product)) → o.output = "" ∧ s' = s) ∧
      (∀ product, Passes access r s (.generated product) → ∃ result,
        Delivers access look product.unit r.outDir s result o.output s' ∧
          o = outcome result ⟨o.events, o.output⟩) ∧
      (∀ fault, (faults access r s).head? = some fault →
        o.exitCode = 1 ∧ o.errorOutput = "Error: " ++ fault.message ++ "\n") ∧
      (∀ reason, Passes access r s (.skipped reason) → o.exitCode = 0 ∧ o.errorOutput = "") ∧
      (o.exitCode = 1 ↔ faults access r s ≠ [] ∨ ∃ product fault output s'',
        Passes access r s (.generated product) ∧
          Delivers access look product.unit r.outDir s (.error fault) output s'') := by
  refine ⟨_, _, rfl, faults_eq_nil_iff, ?_, ?_, ?_, ?_, exitCode_eq_one_iff h rfl⟩
  · -- Without a product the run ended at a fault or was skipped, and neither writes.
    intro hincomplete
    obtain ⟨result, output, s', hends⟩ := exists_ends h r s
    obtain ⟨-, houtput, hstate⟩ := hends.run_eq h rfl
    cases hends with
    | refused first => exact ⟨houtput, hstate⟩
    | skipped pass => exact ⟨houtput, hstate⟩
    | delivered pass => exact absurd ⟨_, pass⟩ hincomplete
  · -- A delivery exists for every unit and every state, and the run is the one it describes.
    intro product hpass
    obtain ⟨result, output, s', hdelivery⟩ := exists_delivers h product.unit r.outDir s
    obtain ⟨houtcome, houtput, hstate⟩ := (Ends.delivered hpass hdelivery).run_eq h rfl
    refine ⟨result, ?_, houtcome⟩
    rw [houtput, hstate]
    exact hdelivery
  · intro fault hfault
    obtain ⟨rest, hfaults⟩ := List.head?_eq_some_iff.mp hfault
    obtain ⟨houtcome, -, -⟩ := (Ends.refused hfaults).run_eq h rfl
    exact ⟨congrArg Outcome.exitCode houtcome, congrArg Outcome.errorOutput houtcome⟩
  · intro reason hpass
    obtain ⟨houtcome, -, -⟩ := (Ends.skipped hpass).run_eq h rfl
    exact ⟨congrArg Outcome.exitCode houtcome, congrArg Outcome.errorOutput houtcome⟩

/-! ## Two requests -/

/-- A request with a pair that has no equals sign. -/
def requestWithoutEquals : Request where
  env := {}
  log := {}
  trees := ["tree.json"]
  assemblyName := none
  propertiesFile := none
  pairs := ["build_property.AssemblyName"]
  outDir := some "out"

/-- A tree with one registration. -/
def orders : Tree where
  version := 1
  path := some "orders.json"
  root := Syntax.Build.compilationUnit
    [Syntax.Build.mapCall "MapGet" (Syntax.Build.stringLiteral "/orders") (Syntax.Build.lambda [])]

/-- The file of that tree, beside a directory for units. -/
def storeWithOrders : Store :=
  ⟨[(["orders.json"], .file orders.compactText.toUTF8.data.toList), (["out"], .directory)]⟩

/-- A request for the unit of that tree. -/
def requestForOrders : Request where
  env := {}
  log := {}
  trees := ["orders.json"]
  assemblyName := some "Shop"
  propertiesFile := none
  pairs := ["build_property.FunctionsEnableMetadataSourceGen=true"]
  outDir := some "out"

/-- What stands in a file of a store as text is read from it. -/
theorem textAt_of_file {s : Store} {path text : String} {place : Files.Place}
    (hplace : s.placeOf path = .ok place)
    (hfile : s.entry? place = some (.file text.toUTF8.data.toList)) :
    textAt Store.access s path = .ok text :=
  Store.readText_eq_ok_iff.mpr ⟨place, hplace, hfile⟩

/-- The tree is read from its file: what was written there is text, and it is the text of a tree. -/
theorem treeInput_orders :
    treeInput Store.access storeWithOrders "orders.json" = .ok orders := by
  have htext : textAt Store.access storeWithOrders "orders.json" = .ok orders.compactText :=
    @textAt_of_file _ _ _ ["orders.json"] rfl rfl
  exact treeInput_of_text htext (Tree.ofText_compactText (by decide) rfl)

/-- All inputs of the request for that tree are good. -/
theorem isLoaded_orders : IsLoaded Store.access requestForOrders storeWithOrders
    (.ofAssembly "Shop") [orders] :=
  have hloaded : requestForOrders.trees.map (treeInput Store.access storeWithOrders) =
      [orders].map .ok := congrArg (fun input => [input]) treeInput_orders
  { noFaults := by
      rw [faults, treeFaults_of_map_treeInput hloaded]
      rfl
    resolved := rfl
    named := ⟨'S', List.mem_cons_self, rfl⟩
    namespaced := rfl
    loaded := hloaded }

/-- The pass over the tree gives a unit with its registration, under the name of every unit. -/
theorem exists_passes_orders : ∃ product : Generation.Product,
    Passes Store.access requestForOrders storeWithOrders (.generated product) ∧
      product.unit.hintName = GeneratedUnit.unitName ∧ product.records.length = 1 := by
  have hsites : [orders].flatMap Tree.callSites ≠ [] := List.cons_ne_nil _ _
  have hquiet : Watch.live.IsQuiet := ⟨rfl, fun _ => rfl⟩
  obtain ⟨product, houtcome, hlength⟩ :=
    @Generation.exists_outcomeOf_eq_generated (.ofAssembly "Shop") [orders] rfl hsites
  have hgives : Gives requestForOrders (.ofAssembly "Shop") [orders] (.generated product) := by
    rw [Gives, Generation.generate_of_live (hquiet.live_after _), houtcome]
  refine ⟨product, ⟨_, _, isLoaded_orders, hgives⟩, ?_, hlength⟩
  rw [Generation.eq_of_generated hgives]
  rfl

/-- The unit of that request is written to its file.  The directory is there, so it is not refused; no
file is there yet, so nothing is up to date and nothing stands in the way. -/
theorem written_of_delivers_orders {unit : GeneratedUnit} {result : Except Failure Unit}
    {output : String} {s' : Store} (hname : unit.hintName = GeneratedUnit.unitName)
    (h : Delivers Store.access Store.entry? unit (some "out") storeWithOrders result output s') :
    result = .ok () ∧ output = "" ∧
      textAt Store.access s' "out/MapActionGeneratedFunctionMetadata.g.cs" = .ok unit.source := by
  have hpath : Files.join "out" unit.hintName = "out/MapActionGeneratedFunctionMetadata.g.cs" := by
    rw [hname]
    decide
  have hmake : (Store.access.createDirectories "out").run storeWithOrders =
    (.ok (), storeWithOrders) := rfl
  -- The directory stands already and can be written into, and there is no file in it yet; so only
  -- one of the four ways to end in a directory is left.
  cases h with
  | directoryRefused made =>
    rw [hmake] at made
    cases made
  | upToDate made directories current =>
    obtain ⟨text, htext, -⟩ := current
    have hmissing : textAt Store.access storeWithOrders
      "out/MapActionGeneratedFunctionMetadata.g.cs" = .error .notFound := rfl
    rw [hmake] at made
    cases made
    rw [hpath, hmissing] at htext
    cases htext
  | written made directories stale wrote replaced readBack =>
    rw [hpath] at readBack
    exact ⟨rfl, rfl, readBack⟩
  | fileRefused made directories stale wrote =>
    have hwrite : ((Store.access.writeText "out/MapActionGeneratedFunctionMetadata.g.cs"
      unit.source).run storeWithOrders).1 = .ok () := rfl
    rw [hmake] at made
    cases made
    rw [hpath] at wrote
    cases hwrite.symm.trans (congrArg Prod.fst wrote)

/-- A request that is refused leaves nothing behind but its error; one whose pass gives a unit leaves
the file of that unit. -/
theorem generate_only_when_complete_refused_and_delivered :
    Store.access.Lawful Store.entry? ∧
      (∃ o s', (run Store.access {} requestWithoutEquals.arguments).run .fresh = (o, s') ∧
        s' = .fresh ∧ o.output = "" ∧ o.exitCode = 1 ∧ o.errorOutput =
          "Error: Invalid --property value: Invalid build property 'build_property.AssemblyName'. " ++
            "Expected KEY=VALUE\n") ∧
      ∃ product o s', Passes Store.access requestForOrders storeWithOrders (.generated product) ∧
        product.records.length = 1 ∧
        (run Store.access {} requestForOrders.arguments).run storeWithOrders = (o, s') ∧
        o.output = "" ∧ o.exitCode = 0 ∧ o.errorOutput = "" ∧
        textAt Store.access s' "out/MapActionGeneratedFunctionMetadata.g.cs" =
          .ok product.unit.source := by
  refine ⟨Store.access_lawful, ?refused, ?delivered⟩
  case refused =>
    obtain ⟨o, s', hrun, hfaults, hincomplete, -, hfirst, -⟩ :=
      generate_only_when_complete Store.access_lawful requestWithoutEquals .fresh
    have hfault : (faults Store.access requestWithoutEquals .fresh).head? =
        some (.property (.notAPair "build_property.AssemblyName")) := rfl
    have hnone : ¬ ∃ product,
        Passes Store.access requestWithoutEquals .fresh (.generated product) := by
      rintro ⟨product, hpass⟩
      rw [hfaults.mpr ⟨_, hpass⟩] at hfault
      cases hfault
    obtain ⟨houtput, hstate⟩ := hincomplete hnone
    obtain ⟨hcode, herror⟩ := hfirst _ hfault
    exact ⟨o, s', hrun, hstate, houtput, hcode, herror.trans rfl⟩
  case delivered =>
    obtain ⟨product, hpass, hname, hlength⟩ := exists_passes_orders
    obtain ⟨o, s', hrun, -, -, hdelivered, -⟩ :=
      generate_only_when_complete Store.access_lawful requestForOrders storeWithOrders
    obtain ⟨result, hdelivers, houtcome⟩ := hdelivered product hpass
    obtain ⟨rfl, houtput, hwritten⟩ := written_of_delivers_orders hname hdelivers
    exact ⟨product, o, s', hpass, hlength, hrun, houtput, congrArg Outcome.exitCode houtcome,
      congrArg Outcome.errorOutput houtcome, hwritten⟩

end RouteIndex.Command
