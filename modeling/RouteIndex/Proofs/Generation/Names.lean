/-
  The names of the functions of a pass.

  A call site whose route is a literal is registered under its route, and every other call site under a
  placeholder, `Function` and its position.

  1. **Names** — a unit assigns one name for each call site of the pass, in their order; what it is
     follows from the position and the route alone (`namesIn_of_generated`).
  2. **Placeholders** — two of them never agree.  But a route may spell one out, and nothing keeps the
     names apart then (`placeholder_taken_by_route`).
  3. **`generate_placeholder_taken_iff`** — that is the only way in which a placeholder is not unique.
-/

import RouteIndex.Proofs.Generation.Records
import RouteIndex.Proofs.Provider.Names

namespace RouteIndex.Generation

open Syntax Pass

/-! ## The unit of a pass -/

variable {progress : Bool} {s : Settings} {trees : List Tree} {w : Watch} {product : Product}

/-- **A unit assigns one name for each call site**, by its position and its route.  The names are
read out of the lines of the unit and not out of its records. -/
theorem namesIn_of_generated
    (h : ((generate progress s trees).run w).1 = .ok (.generated product)) :
    Provider.namesIn (Provider.lines (providerOptions s) product.records) =
      (trees.flatMap Tree.callSites).zipIdx.map fun c => Provider.registeredName c.2 c.1.route? := by
  have hrecords : product.records =
      (Extraction.ofSites s.assemblyName (trees.flatMap Tree.callSites)).records := by
    rw [eq_of_generated h, inspectionOf_eq]
  have hmethods := method_mem_of_mem_callSites trees
  rw [Provider.namesIn_lines, hrecords]
  apply List.ext_getElem?
  intro i
  rw [List.getElem?_map, List.getElem?_map, List.getElem?_zipIdx]
  cases hsite : (trees.flatMap Tree.callSites)[i]? with
  | none =>
    -- there are as many records as call sites
    have hlength : (Extraction.ofSites s.assemblyName (trees.flatMap Tree.callSites)).records.length =
        (trees.flatMap Tree.callSites).length := by
      rw [← List.length_map, Extraction.callSites_of_records hmethods, List.length_range]
    rw [List.getElem?_eq_none_iff] at hsite
    rw [List.getElem?_eq_none (by omega)]
    rfl
  | some site =>
    obtain ⟨verb, r, hr, hrecord, -⟩ :=
      Extraction.exists_record_of_getElem? s.assemblyName hmethods hsite
    rw [hr, Option.map_some, hrecord.callSite, hrecord.name_eq, Option.map_some, Option.map_some,
      Nat.zero_add]

/-! ## Placeholders -/

/-- **A placeholder is unique unless a route spells it.**  The unit of a pass assigns one name for each
call site.  For a call site whose route is no literal this is `Function` and its position, which is not
empty; and the name of another call site is the same if and only if its route is a literal that gives
this placeholder when its slashes are taken out. -/
theorem generate_placeholder_taken_iff
    (h : ((generate progress s trees).run w).1 = .ok (.generated product)) :
    product.unit.source = Provider.source (providerOptions s) product.records ∧
    ∃ names, Provider.namesIn (Provider.lines (providerOptions s) product.records) = names ∧
      names.length = (trees.flatMap Tree.callSites).length ∧
      ∀ i site, (trees.flatMap Tree.callSites)[i]? = some site → site.route? = none →
        names[i]? = some ("Function" ++ Provider.number i) ∧
        "Function" ++ Provider.number i ≠ "" ∧
        ∀ j other, j ≠ i → (trees.flatMap Tree.callSites)[j]? = some other →
          (names[j]? = names[i]? ↔ ∃ route, other.route? = some route ∧
            String.ofList (route.toList.filter (· ≠ '/')) = "Function" ++ Provider.number i) := by
  have hnames := namesIn_of_generated h
  -- What stands at an index of the names is told by the route of the call site at that index.
  have hname (k : Nat) : (Provider.namesIn (Provider.lines (providerOptions s) product.records))[k]? =
      (trees.flatMap Tree.callSites)[k]?.map fun site =>
        Provider.registeredName k site.route? := by
    rw [hnames, List.getElem?_map, List.getElem?_zipIdx, Option.map_map, Nat.zero_add]
    rfl
  refine ⟨?_, _, rfl, ?_, ?_⟩
  · rw [eq_of_generated h]
    rfl
  · rw [hnames, List.length_map, List.length_zipIdx]
  · intro i site hsite hroute
    have hplaceholder : (Provider.namesIn
        (Provider.lines (providerOptions s) product.records))[i]? =
        some (Provider.functionVariable i) := by
      rw [hname, hsite, Option.map_some, hroute]
      rfl
    refine ⟨hplaceholder, Provider.functionVariable_ne_empty i, fun j other hne hother => ?_⟩
    rw [hplaceholder, hname, hother, Option.map_some, Option.some.injEq]
    exact Provider.registeredName_eq_functionVariable_iff hne other.route?

/-- A file with two registrations: the route of the first is a variable. -/
def variableThen (route : String) : List Tree :=
  [.ofRoot (Build.compilationUnit
    [Build.mapCall "MapGet" (Build.identifier "path") (Build.lambda []),
      Build.mapCall "MapPost" (Build.stringLiteral route) (Build.lambda [])])]

/-- The routes of the two registrations. -/
theorem route?_variableThen (route : String) :
    ((variableThen route).flatMap Tree.callSites).map CallSite.route? = [none, some route] := by
  rfl

theorem generate_placeholder_taken_iff_of_orders :
    ∃ product, ((generate true (.ofAssembly "Api") (variableThen "/orders")).run .live).1 =
        .ok (.generated product) ∧
      ∃ names, Provider.namesIn
          (Provider.lines (providerOptions (.ofAssembly "Api")) product.records) = names ∧
        names.length = 2 ∧ names[0]? = some "Function0" ∧ names[1]? ≠ names[0]? := by
  have hquiet : Watch.live.IsQuiet := ⟨rfl, fun _ => rfl⟩
  have hsites : (variableThen "/orders").flatMap Tree.callSites ≠ [] := nofun
  obtain ⟨product, hproduct⟩ := exists_generated true (.ofAssembly "Api") rfl hsites hquiet
  obtain ⟨-, names, hnames, hlength, hplaceholder⟩ := generate_placeholder_taken_iff hproduct
  obtain ⟨hfirst, -, hother⟩ := hplaceholder 0 _ rfl rfl
  refine ⟨product, hproduct, names, hnames, hlength, hfirst, fun htaken => ?_⟩
  obtain ⟨route, hroute, hspelled⟩ := (hother 1 _ (by decide) rfl).mp htaken
  obtain rfl : "/orders" = route := Option.some.inj hroute
  exact absurd hspelled (by decide)

/-- **A route can take the name of a placeholder**: two functions are registered under one name. -/
theorem placeholder_taken_by_route :
    ((variableThen "/Function0").flatMap Tree.callSites).map CallSite.route? =
      [none, some "/Function0"] ∧
    ∃ product, ((generate true (.ofAssembly "Api") (variableThen "/Function0")).run .live).1 =
        .ok (.generated product) ∧
      Provider.namesIn (Provider.lines (providerOptions (.ofAssembly "Api")) product.records) =
        ["Function0", "Function0"] := by
  have hquiet : Watch.live.IsQuiet := ⟨rfl, fun _ => rfl⟩
  have hsites : (variableThen "/Function0").flatMap Tree.callSites ≠ [] := nofun
  obtain ⟨product, hproduct⟩ := exists_generated true (.ofAssembly "Api") rfl hsites hquiet
  refine ⟨route?_variableThen _, product, hproduct, ?_⟩
  rw [namesIn_of_generated hproduct]
  decide

end RouteIndex.Generation
