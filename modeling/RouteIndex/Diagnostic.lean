/-
  Diagnostics: what went less well for one call site, without stopping the others.

  There are three causes; `Cause.diagnostic` gives each its severity, code and message.  A
  diagnostic read back from JSON may hold any code and message, so the two are kept as texts.
-/

import RouteIndex.Json.Printer
import RouteIndex.Json.Reader
import RouteIndex.Json.Fields

namespace RouteIndex

/-- How much a diagnostic matters. -/
inductive Severity where
  | info
  | warning
  deriving DecidableEq, Repr

/-- A remark on one call site. -/
structure Diagnostic where
  severity : Severity
  code : String
  message : String
  /-- The position of the call site in reading order. -/
  callSite : Nat
  deriving DecidableEq, Repr

namespace Severity

/-- The name of a severity. -/
def name : Severity → String
  | .info => "info"
  | .warning => "warning"

/-- Reads a severity. -/
def ofJson? (j : Json) : Option Severity :=
  match j.variant? with
  | some "info" => some .info
  | some "warning" => some .warning
  | _ => none

end Severity

namespace Diagnostic

/-! ## Causes -/

/-- What can be wrong with a call site. -/
inductive Cause where
  /-- The route is no string literal, so the function has no name of its own. -/
  | nonLiteralRoute (method : String)
  /-- The method registers no verb, so there is no function. -/
  | unrecognizedVerb (method : String)
  /-- A retry attribute has other arguments than it should. -/
  | malformedRetry (policy : String)
  deriving DecidableEq, Repr

/-- The code of a cause. -/
def Cause.code : Cause → String
  | .nonLiteralRoute _ => "FNMETA001"
  | .unrecognizedVerb _ => "FNMETA002"
  | .malformedRetry _ => "FNMETA003"

/-- The severity of a cause. -/
def Cause.severity : Cause → Severity
  | .malformedRetry _ => .info
  | _ => .warning

/-- The message of a cause. -/
def Cause.message : Cause → String
  | .nonLiteralRoute method =>
    "route argument of '" ++ method ++
      "' is not a string literal; a placeholder name is emitted"
  | .unrecognizedVerb method => "'" ++ method ++ "' has no HTTP verb mapping; call site excluded"
  | .malformedRetry policy =>
    "'" ++ policy ++ "' arguments are not literals of the expected shape; no retry emitted"

/-- The diagnostic of a cause at a call site. -/
def ofCause (callSite : Nat) (cause : Cause) : Diagnostic where
  severity := cause.severity
  code := cause.code
  message := cause.message
  callSite := callSite

/-- The diagnostic on one line. -/
def line (d : Diagnostic) : String :=
  d.severity.name ++ " " ++ d.code ++ " (call site #" ++
    String.ofList (Text.digitsOf d.callSite) ++ "): " ++ d.message

/-! ## JSON form -/

/-- The JSON form. -/
def toJson (d : Diagnostic) : Json :=
  .object [("severity", .text d.severity.name), ("code", .text d.code),
    ("message", .text d.message), ("callSite", .nat d.callSite)]

/-- Reads the JSON form. -/
def ofJson? (j : Json) : Option Diagnostic := do
  match ← j.fields? ["severity", "code", "message", "callSite"] with
  | [severity, code, message, callSite] =>
    return {
      severity := ← Json.required Severity.ofJson? severity
      code := ← Json.required Json.text? code
      message := ← Json.required Json.text? message
      callSite := ← Json.required (Json.natBelow? 64) callSite }
  | _ => none

/-- The JSON text of a diagnostic. -/
def text (d : Diagnostic) : String :=
  d.toJson.compact

/-- Reads a diagnostic from its JSON text. -/
def ofText? (s : String) : Option Diagnostic :=
  (Json.read? s).bind ofJson?

end Diagnostic

end RouteIndex
