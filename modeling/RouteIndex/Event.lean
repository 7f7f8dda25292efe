/-
  Log events: everything that a run tells about itself, in the order in which it happens.

  An event is a constructor with its facts; `level`, `target`, `message` and `fields` say how it is
  logged.  The events of a pass come from three sources: its progress (start, phases, ending), the
  phases themselves, and the command that ran it.
-/

import RouteIndex.Diagnostic
import RouteIndex.Level
import RouteIndex.Text.Quoted

namespace RouteIndex

/-- Why a pass ended without a unit. -/
inductive SkipReason where
  /-- The switch is off; nothing was scanned. -/
  | disabled
  /-- No call registers a route. -/
  | noCandidates
  /-- Calls register routes, but none gave a record. -/
  | noRecords
  deriving DecidableEq, Repr, Inhabited

namespace SkipReason

/-- Every reason once. -/
def all : List SkipReason :=
  [.disabled, .noCandidates, .noRecords]

/-- The reason in words. -/
def message : SkipReason → String
  | .disabled => "metadata source generation disabled"
  | .noCandidates => "no route registration call sites"
  | .noRecords => "no call site produced function metadata"

end SkipReason

/-- A part of a pass. -/
inductive Phase where
  | scan
  | extract
  | emit
  deriving DecidableEq, Repr, Inhabited

/-- The name of a phase. -/
def Phase.name : Phase → String
  | .scan => "scan"
  | .extract => "extract"
  | .emit => "emit"

/-- Something that happened in a run. -/
inductive Event where
  | passStarted (trees : Nat)
  | phaseStarted (phase : Phase)
  | phaseComplete (phase : Phase)
  | passSkipped (reason : SkipReason)
  | passComplete (functions : Nat)
  | passCancelled
  | switchOff
  | callSiteMatched (method : String)
  | treeScanned (tree : String) (candidates : Nat)
  | verbMissing (method : String) (callSite : Nat)
  | routeNotLiteral (callSite : Nat)
  | recordsExtracted (records diagnostics : Nat)
  | providerRendered (functions bytes : Nat) (autoRegister : Bool)
  | unitGenerated (unitName : String) (functions diagnostics : Nat)
  | programStarted (program version : String)
  | argumentsRead (arguments : List String)
  | settingsResolved (settings : String)
  | nothingGenerated (reason : SkipReason)
  | diagnosticRaised (diagnostic : Diagnostic)
  | unitUnchanged (path : String)
  | unitWritten (path digest : String)
  deriving DecidableEq, Repr, Inhabited

namespace Event

/-- A fact that an event carries. -/
inductive Field where
  | number (n : Nat)
  | text (s : String)
  /-- A text that stands in quotes in a line. -/
  | quoted (s : String)
  | flag (b : Bool)
  deriving DecidableEq, Repr

/-- The importance of an event. -/
def level : Event → Level
  | callSiteMatched _ => .trace
  | phaseStarted _ | switchOff | treeScanned .. | recordsExtracted .. | providerRendered ..
  | programStarted .. | argumentsRead _ | settingsResolved _ | unitUnchanged _ => .debug
  | passStarted _ | phaseComplete _ | passSkipped _ | passComplete _ | unitGenerated ..
  | nothingGenerated _ | unitWritten .. => .info
  | passCancelled | verbMissing .. | routeNotLiteral _ | diagnosticRaised _ => .warn

/-- The part of the program that tells an event; a part of another part has its name in front. -/
def target : Event → String
  | programStarted .. | argumentsRead _ => "fnmeta"
  | settingsResolved _ | nothingGenerated _ | diagnosticRaised _ | unitUnchanged _
  | unitWritten .. => "fnmeta::cli::handlers"
  | passStarted _ | phaseStarted _ | phaseComplete _ | passSkipped _ | passComplete _
  | passCancelled => "fnmeta::progress::logging"
  | switchOff | unitGenerated .. => "fnmeta::pipeline::orchestrator"
  | callSiteMatched _ | treeScanned .. => "fnmeta::pipeline::phases::scan"
  | verbMissing .. | routeNotLiteral _ | recordsExtracted .. =>
    "fnmeta::pipeline::phases::extract"
  | providerRendered .. => "fnmeta::pipeline::phases::emit"

/-- The words of an event. -/
def message : Event → String
  | passStarted _ => "Starting metadata generation"
  | phaseStarted _ => "Starting phase"
  | phaseComplete _ => "Phase complete"
  | passSkipped _ => "Generation skipped"
  | passComplete _ => "Generation complete"
  | passCancelled => "Generation cancelled"
  | switchOff => "Source generation switch is off"
  | callSiteMatched _ => "Matched call site"
  | treeScanned .. => "Scanned syntax tree"
  | verbMissing .. => "No HTTP verb for registration method"
  | routeNotLiteral _ => "Route argument is not a string literal"
  | recordsExtracted .. => "Extracted function metadata"
  | providerRendered .. => "Rendered metadata provider"
  | unitGenerated .. => "Generated metadata provider"
  | programStarted program version => program ++ " v" ++ version ++ " starting"
  | argumentsRead arguments => "Arguments: " ++ " ".intercalate (arguments.map Text.quoted)
  | settingsResolved _ => "Resolved generator configuration"
  | nothingGenerated _ => "Nothing generated"
  | diagnosticRaised diagnostic => diagnostic.line
  | unitUnchanged _ => "Generated unit unchanged"
  | unitWritten .. => "Wrote generated unit"

/-- The facts of an event, by name. -/
def fields : Event → List (String × Field)
  | passStarted trees => [("trees", .number trees)]
  | phaseStarted phase | phaseComplete phase => [("phase", .text phase.name)]
  | passSkipped reason | nothingGenerated reason => [("reason", .text reason.message)]
  | passComplete functions => [("functions", .number functions)]
  | callSiteMatched method => [("method", .quoted method)]
  | treeScanned tree candidates => [("tree", .quoted tree), ("candidates", .number candidates)]
  | verbMissing method callSite => [("method", .quoted method), ("call_site", .number callSite)]
  | routeNotLiteral callSite => [("call_site", .number callSite)]
  | recordsExtracted records diagnostics =>
    [("records", .number records), ("diagnostics", .number diagnostics)]
  | providerRendered functions bytes autoRegister =>
    [("functions", .number functions), ("bytes", .number bytes),
      ("auto_register", .flag autoRegister)]
  | unitGenerated unitName functions diagnostics =>
    [("unit", .text unitName), ("functions", .number functions),
      ("diagnostics", .number diagnostics)]
  | settingsResolved settings => [("config", .text settings)]
  | unitUnchanged path => [("path", .text path)]
  | unitWritten path digest => [("path", .text path), ("digest", .text digest)]
  | passCancelled | switchOff | programStarted .. | argumentsRead _ | diagnosticRaised _ => []

/-- The name under which an event tells how long something took.  The time itself is no fact of the
event, since it differs from run to run. -/
def timing? : Event → Option String
  | phaseComplete _ => some "duration_ms"
  | passComplete _ => some "total_time_ms"
  | _ => none

/-- The names of the fields of an event; its words and its time are fields too. -/
def fieldNames (e : Event) : List String :=
  "message" :: e.fields.map (·.1) ++ e.timing?.toList

end Event

end RouteIndex
