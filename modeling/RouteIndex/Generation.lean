/-
  Generation: one pass from syntax trees to a unit, or to the reason why there is none.

  A pass scans, extracts and renders, each in a phase that is announced and, unless it is cancelled,
  closed.  `generate` ends with the event of its outcome; `inspect` stops after extraction and does
  not look at the switch.  The last look at the cancellation flag comes after rendering, so a unit
  is only ever given out whole.
-/

import RouteIndex.Extraction
import RouteIndex.GeneratedUnit
import RouteIndex.Provider.Source
import RouteIndex.Settings

namespace RouteIndex.Generation

open Syntax

/-- A pass that gave a unit. -/
structure Product where
  unit : GeneratedUnit
  records : List FunctionRecord
  diagnostics : List Diagnostic
  deriving DecidableEq

/-- How a pass ends unless it is cancelled. -/
inductive Outcome where
  | skipped (reason : SkipReason)
  | generated (product : Product)
  deriving DecidableEq

/-- What scanning and extracting give. -/
structure Inspection where
  candidates : Nat
  nodesVisited : Nat
  records : List FunctionRecord
  diagnostics : List Diagnostic
  deriving DecidableEq

/-- The unit of an outcome, if it has one. -/
def Outcome.unit? : Outcome → Option GeneratedUnit
  | .generated product => some product.unit
  | .skipped _ => none

/-- Whether an outcome has no unit. -/
def Outcome.isSkipped : Outcome → Bool
  | .skipped _ => true
  | .generated _ => false

/-! ## Progress -/

/-- Records an event of the progress of a pass, if progress is wanted. -/
def announce (progress : Bool) (e : Event) : Pass Unit :=
  if progress then Pass.record e else pure ()

/-- Runs a phase between its two events. -/
def inPhase {α : Type} (progress : Bool) (phase : Phase) (work : Pass α) : Pass α := do
  announce progress (.phaseStarted phase)
  let result ← work
  announce progress (.phaseComplete phase)
  return result

/-! ## Passes -/

/-- What the provider is rendered with. -/
def providerOptions (settings : Settings) : Provider.Options :=
  ⟨settings.nameSpace, settings.autoRegister⟩

/-- The phases of a pass, as far as they are needed. -/
def phases (progress : Bool) (settings : Settings) (trees : List Tree) : Pass Outcome := do
  if settings.enabled then
    announce progress (.passStarted trees.length)
    let found ← inPhase progress .scan (Findings.gather trees)
    if found.callSites.isEmpty then return .skipped .noCandidates
    let extracted ← inPhase progress .extract
      (Extraction.ofCallSites settings.assemblyName found.callSites)
    if extracted.records.isEmpty then return .skipped .noRecords
    let source ← inPhase progress .emit
      (Provider.render (providerOptions settings) extracted.records)
    Pass.check
    return .generated ⟨.ofSource source, extracted.records, extracted.diagnostics⟩
  else
    Pass.record .switchOff
    return .skipped .disabled

/-- The events of an outcome. -/
def conclude (progress : Bool) : Outcome → Pass Unit
  | .skipped reason => announce progress (.passSkipped reason)
  | .generated product => do
    Pass.record (.unitGenerated product.unit.hintName product.records.length
      product.diagnostics.length)
    announce progress (.passComplete product.records.length)

/-- One pass over the trees. -/
def generate (progress : Bool) (settings : Settings) (trees : List Tree) : Pass Outcome := do
  let outcome ← (phases progress settings trees).onCancel (announce progress .passCancelled)
  conclude progress outcome
  return outcome

/-- Scans and extracts, whatever the switch says. -/
def inspect (progress : Bool) (settings : Settings) (trees : List Tree) : Pass Inspection := do
  let found ← inPhase progress .scan (Findings.gather trees)
  let extracted ← inPhase progress .extract
    (Extraction.ofCallSites settings.assemblyName found.callSites)
  return ⟨found.callSites.length, found.visited, extracted.records, extracted.diagnostics⟩

end RouteIndex.Generation
