/-
  Function records: what the host is told about one function.

  A record made from a route (`http`) runs through the web stack of the host, so language and entry
  point are the same for all of them; the rest is the name, the assembly, the bindings and the retry
  policy.  `callSite` is the position of the registration call in reading order.
-/

import RouteIndex.Binding
import RouteIndex.RetryPolicy

namespace RouteIndex

/-- What the host is told about one function. -/
structure FunctionRecord where
  callSite : Nat
  /-- The route literal; `none` when the route was no literal. -/
  name : Option String
  scriptFile : String
  entryPoint : String
  language : String
  isHttpTrigger : Bool
  /-- The input trigger first, the output last. -/
  bindings : List Binding
  retry : RetryPolicy
  deriving DecidableEq, Repr

namespace FunctionRecord

/-- The entry point of every function that runs through the web stack. -/
def webEntryPoint : String :=
  "AspNetIntegration.NoOpTrigger.Run"

/-- The language of every function of an isolated worker. -/
def workerLanguage : String :=
  "dotnet-isolated"

/-- The file that an assembly is compiled to. -/
def scriptFileOf (assembly : String) : String :=
  assembly ++ ".dll"

/-- The record of a route. -/
def http (callSite : Nat) (name : Option String) (assembly : String) (bindings : List Binding)
    (retry : RetryPolicy) : FunctionRecord where
  callSite := callSite
  name := name
  scriptFile := scriptFileOf assembly
  entryPoint := webEntryPoint
  language := workerLanguage
  isHttpTrigger := true
  bindings := bindings
  retry := retry

/-- The verbs of the input trigger, if there is one. -/
def methods (r : FunctionRecord) : List String :=
  (r.bindings.head?.bind (·.methods)).getD []

/-! ## JSON form -/

/-- A text or `null`. -/
def nameJson : Option String → Json
  | some name => .text name
  | none => .null

/-- The JSON form. -/
def toJson (r : FunctionRecord) : Json :=
  .object [("callSite", .nat r.callSite), ("name", nameJson r.name),
    ("scriptFile", .text r.scriptFile), ("entryPoint", .text r.entryPoint),
    ("language", .text r.language), ("isHttpTrigger", .bool r.isHttpTrigger),
    ("bindings", .arr (r.bindings.map Binding.toJson)), ("retry", r.retry.toJson)]

/-- Reads the JSON form; the call site is zero and the policy `none` unless they are given. -/
def ofJson? (j : Json) : Option FunctionRecord := do
  match ← j.fields? ["callSite", "name", "scriptFile", "entryPoint", "language", "isHttpTrigger",
    "bindings", "retry"] with
  | [callSite, name, scriptFile, entryPoint, language, isHttpTrigger, bindings, retry] =>
    return {
      callSite := ← Json.orElse 0 (Json.natBelow? 64) callSite
      name := ← Json.optional Json.text? name
      scriptFile := ← Json.required Json.text? scriptFile
      entryPoint := ← Json.required Json.text? entryPoint
      language := ← Json.required Json.text? language
      isHttpTrigger := ← Json.required Json.bool? isHttpTrigger
      bindings := ← Json.required (Json.items? Binding.ofJson?) bindings
      retry := ← Json.orElse .none (RetryPolicy.ofJson? (RetryPolicy.maxLevels - 1)) retry }
  | _ => none

/-- The JSON text of a record. -/
def text (r : FunctionRecord) : String :=
  r.toJson.compact

/-- Reads a record from its JSON text. -/
def ofText? (s : String) : Option FunctionRecord :=
  (Json.read? s).bind ofJson?

end FunctionRecord

end RouteIndex
