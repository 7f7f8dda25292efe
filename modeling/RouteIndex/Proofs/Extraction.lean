/-
  What an extraction does, and what it gives.

  Call site after call site, an extraction looks at the flag and logs the causes of what went less
  well: `siteTicks` are these ticks, `withSite` is what the call site adds.  **`ofCallSites_does`**
  gives the whole line of an extraction and its result together.
-/

import RouteIndex.Extraction
import RouteIndex.Proofs.Pass

namespace RouteIndex.Extraction

open Pass

variable (assembly : String)

/-- What has been extracted after one more call site. -/
def withSite (position : Nat) (found : Extraction) (site : CallSite) : Extraction :=
  ⟨found.records ++ (site.read assembly position).1.toList,
    found.diagnostics ++ (site.read assembly position).2.map (Diagnostic.ofCause position)⟩

/-- The ticks of one call site. -/
def siteTicks (position : Nat) (site : CallSite) : List Tick :=
  .check :: ((site.read assembly position).2.filterMap (·.event? position)).map .event

/-- What has been extracted after the call sites from a position on. -/
def withSites (position : Nat) (found : Extraction) : List CallSite → Extraction
  | [] => found
  | site :: sites => withSites (position + 1) (withSite assembly position found site) sites

/-- The ticks of the call sites from a position on. -/
def sitesTicks (position : Nat) : List CallSite → List Tick
  | [] => []
  | site :: sites => siteTicks assembly position site ++ sitesTicks (position + 1) sites

/-- What is extracted from some call sites. -/
def ofSites (sites : List CallSite) : Extraction :=
  withSites assembly 0 {} sites

/-- The ticks of an extraction. -/
def ticks (sites : List CallSite) : List Tick :=
  sitesTicks assembly 0 sites ++
    [.event (.recordsExtracted (ofSites assembly sites).records.length
      (ofSites assembly sites).diagnostics.length)]

/-- Call sites from a position on.  The induction is over the call sites; the position goes up with
each of them, also where a call site gives no record. -/
theorem addFrom_does (sites : List CallSite) : ∀ (position : Nat) (found : Extraction),
    (addFrom assembly position found sites).Does (sitesTicks assembly position sites)
      (withSites assembly position found sites) := by
  induction sites with
  | nil => exact fun _ found => does_pure found
  | cons site sites ih =>
    intro position found
    have hrest := ih (position + 1) (withSite assembly position found site)
    exact does_check.bind ((does_recordAll _).bind hrest)

/-- **An extraction gives what its call sites add, one after the other**, and does nothing but their
ticks and one event at its end. -/
theorem ofCallSites_does (sites : List CallSite) :
    (ofCallSites assembly sites).Does (ticks assembly sites) (ofSites assembly sites) :=
  (addFrom_does assembly sites 0 {}).bind ((does_record _).bind (does_pure _))

/-- A check and the causes that are logged are work inside a phase. -/
theorem isWork_siteTicks (position : Nat) (site : CallSite) :
    IsWork (siteTicks assembly position site) := by
  intro e he
  rcases List.mem_cons.mp he with he | he
  · nomatch he
  · obtain ⟨e', he', heq⟩ := List.mem_map.mp he
    obtain rfl := Tick.event.inj heq
    obtain ⟨cause, -, hcause⟩ := List.mem_filterMap.mp he'
    cases cause with
    | unrecognizedVerb method => rw [← Option.some.inj hcause]; rfl
    | nonLiteralRoute method => rw [← Option.some.inj hcause]; rfl
    | malformedRetry name => nomatch hcause

theorem isWork_sitesTicks (sites : List CallSite) : ∀ (position : Nat),
    IsWork (sitesTicks assembly position sites) := by
  induction sites with
  | nil => exact fun _ => isWork_nil
  | cons site sites ih =>
    exact fun position => (isWork_siteTicks assembly position site).append (ih (position + 1))

/-- All of an extraction is work, so its checks are inside its phase. -/
theorem isWork_ticks (sites : List CallSite) : IsWork (ticks assembly sites) :=
  (isWork_sitesTicks assembly sites 0).append (isWork_event rfl)

end RouteIndex.Extraction
