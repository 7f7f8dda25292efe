/-
  Extraction: from call sites to function records.

  `CallSite.read` reads one call site, without regard to the others: at most one record, and the
  causes of what went less well.  `Extraction.ofCallSites` does so for all of them in order; only
  cancellation ends it early.
-/

import RouteIndex.CallSite
import RouteIndex.FunctionRecord
import RouteIndex.RetryAttribute

namespace RouteIndex

open Syntax

namespace CallSite

/-- The route, when it is a string literal. -/
def route? (site : CallSite) : Option String :=
  (site.arguments.head?.filter (·.kind = .stringLiteral)).bind (·.text)

/-- The retry policy of the declaration around the call, or the attribute that is malformed. -/
def retry (site : CallSite) : Except RetryAttribute RetryPolicy :=
  match site.declaration with
  | some declaration => RetryAttribute.policyOfDeclaration declaration
  | none => .ok .none

/-- What the position of a call site gives: a record, unless the method has no verb, and what went
less well. -/
def read (assembly : String) (position : Nat) (site : CallSite) :
    Option FunctionRecord × List Diagnostic.Cause :=
  match Verb.ofMethod? site.method with
  | none => (none, [.unrecognizedVerb site.method])
  | some verb =>
    let noName := if site.route?.isNone then [.nonLiteralRoute site.method] else []
    let record := FunctionRecord.http position site.route? assembly (Binding.forVerb verb)
    match site.retry with
    | .ok policy => (some (record policy), noName)
    | .error a => (some (record .none), noName ++ [.malformedRetry a.name])

end CallSite

/-- The event that a cause is logged with, if it is. -/
def Diagnostic.Cause.event? (callSite : Nat) : Diagnostic.Cause → Option Event
  | .unrecognizedVerb method => some (.verbMissing method callSite)
  | .nonLiteralRoute _ => some (.routeNotLiteral callSite)
  | .malformedRetry _ => none

/-- The records of a pass and the diagnostics beside them. -/
structure Extraction where
  records : List FunctionRecord := []
  diagnostics : List Diagnostic := []
  deriving DecidableEq, Inhabited

namespace Extraction

/-- Adds what the call sites from a position on give. -/
def addFrom (assembly : String) (position : Nat) (found : Extraction) :
    List CallSite → Pass Extraction
  | [] => pure found
  | site :: sites => do
    Pass.check
    let (record, causes) := site.read assembly position
    Pass.recordAll (causes.filterMap (·.event? position))
    addFrom assembly (position + 1)
      ⟨found.records ++ record.toList,
        found.diagnostics ++ causes.map (Diagnostic.ofCause position)⟩ sites

/-- The records and diagnostics of the call sites, in their order. -/
def ofCallSites (assembly : String) (sites : List CallSite) : Pass Extraction := do
  let found ← addFrom assembly 0 {} sites
  Pass.record (.recordsExtracted found.records.length found.diagnostics.length)
  return found

end Extraction

end RouteIndex
