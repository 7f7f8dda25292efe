/-
  The source of a provider: a C# file with a class that gives the host its function records, the
  extension method that registers it, and perhaps a start-up class that calls the extension.

  The file is a list of lines.  Only the lines of one function depend on a record
  (`functionLines`); its two variables are named for the position of the call site, so texts from
  the source of the user stand in literals only.  Language and entry point are pasted as they are.
-/

import RouteIndex.FunctionRecord
import RouteIndex.Pass
import RouteIndex.Provider.Literal

namespace RouteIndex.Provider

/-- What a provider is rendered with, the records apart. -/
structure Options where
  nameSpace : String
  autoRegister : Bool
  deriving DecidableEq, Repr

/-! ## Names in the file -/

/-- The class that gives the records. -/
def providerClass : String :=
  "GeneratedMapActionFunctionMetadataProvider"

/-- The class of the extension method. -/
def extensionClass : String :=
  "WorkerHostBuilderMapActionFunctionMetadataProviderExtension"

/-- The method that registers the provider. -/
def extensionMethod : String :=
  "ConfigureGeneratedMapActionFunctionMetadataProvider"

/-- The class that registers the provider at start-up. -/
def startupClass : String :=
  "MapActionFunctionMetadataProviderAutoStartup"

/-- The namespaces that the file uses. -/
def usedNamespaces : List String :=
  ["System", "System.Collections.Generic", "System.Collections.Immutable", "System.Text.Json",
    "System.Threading.Tasks", "Microsoft.Azure.Functions.Worker",
    "Microsoft.Azure.Functions.Worker.Core.FunctionMetadata",
    "Microsoft.Extensions.DependencyInjection", "Microsoft.Extensions.Hosting"]

/-- The number as a text. -/
def number (n : Nat) : String :=
  String.ofList (Text.digitsOf n)

/-- The variable of the function at a position. -/
def functionVariable (callSite : Nat) : String :=
  "Function" ++ number callSite

/-- The variable of the bindings of that function. -/
def bindingsVariable (callSite : Nat) : String :=
  "Function" ++ number callSite ++ "RawBindings"

/-! ## Lines -/

/-- A line that is indented by so many steps. -/
def indent (steps : Nat) (line : String) : String :=
  String.ofList (List.replicate (4 * steps) ' ') ++ line

/-- The name that a function is registered under: its route without separators, or the name of its
variable when it has none. -/
def registeredName (callSite : Nat) : Option String → String
  | some name => String.ofList (name.toList.filter (· ≠ '/'))
  | none => functionVariable callSite

/-- The literal of that name. -/
def nameLiteral (callSite : Nat) (name : Option String) : String :=
  regularLiteral (registeredName callSite name)

/-- The lines with a comma after each one but the last. -/
def withCommas : List String → List String
  | [] => []
  | [line] => [line]
  | line :: next :: lines => (line ++ ",") :: withCommas (next :: lines)

/-- An interval of a retry policy. -/
def intervalAssignment (field literal : String) : String :=
  field ++ " = TimeSpan.Parse(" ++ regularLiteral literal ++ ")"

/-- The count of a retry policy that has one. -/
def maxRetryCount? : RetryPolicy → Option Int32
  | .none => none
  | .fixedDelay count _ => some count
  | .exponentialBackoff count _ _ => some count

/-- The lines of a retry policy; none for no retry. -/
def retryLines (p : RetryPolicy) : List String :=
  match maxRetryCount? p with
  | none => []
  | some count =>
    [indent 4 "Retry = new DefaultRetryOptions", indent 4 "\x7b"] ++
    (withCommas
      (("MaxRetryCount = " ++ String.ofList (Text.integerDigits count.toInt)) ::
        p.intervals.map fun (field, literal) => intervalAssignment field literal)).map (indent 5) ++
    [indent 4 "\x7d,"]

/-- The line that adds a binding. -/
def bindingLine (callSite : Nat) (b : Binding) : String :=
  indent 3 (bindingsVariable callSite ++ ".Add(" ++ verbatimLiteral b.text ++ ");")

/-- The lines of one function. -/
def functionLines (r : FunctionRecord) : List String :=
  [indent 3 ("var " ++ bindingsVariable r.callSite ++ " = new List<string>();")] ++
  r.bindings.map (bindingLine r.callSite) ++
  [indent 3 ("var " ++ functionVariable r.callSite ++ " = new DefaultFunctionMetadata"),
    indent 3 "\x7b",
    indent 4 ("Language = \"" ++ r.language ++ "\","),
    indent 4 ("Name = " ++ nameLiteral r.callSite r.name ++ ","),
    indent 4 ("EntryPoint = \"" ++ r.entryPoint ++ "\","),
    indent 4 ("RawBindings = " ++ bindingsVariable r.callSite ++ ",")] ++
  retryLines r.retry ++
  [indent 4 ("ScriptFile = " ++ regularLiteral r.scriptFile),
    indent 3 "\x7d;",
    indent 3 ("metadataList.Add(" ++ functionVariable r.callSite ++ ");")]

/-- The lines before the namespace. -/
def headerLines : List String :=
  "// <auto-generated/>" :: usedNamespaces.map ("using " ++ · ++ ";") ++ [""]

/-- The lines of the provider class before the functions. -/
def providerOpening : List String :=
  [indent 1 "/// <summary>",
    indent 1 ("/// Custom <see cref=\"IFunctionMetadataProvider\"/> implementation that returns " ++
      "function metadata definitions for the current worker."),
    indent 1 "/// </summary>",
    indent 1 ("[global::System.ComponentModel.EditorBrowsableAttribute(" ++
      "global::System.ComponentModel.EditorBrowsableState.Never)]"),
    indent 1 "[global::System.Runtime.CompilerServices.CompilerGeneratedAttribute()]",
    indent 1 ("public class " ++ providerClass ++ " : IFunctionMetadataProvider"),
    indent 1 "\x7b",
    indent 2 "/// <inheritdoc/>",
    indent 2 ("public Task<ImmutableArray<IFunctionMetadata>> " ++
      "GetFunctionMetadataAsync(string directory)"),
    indent 2 "\x7b",
    indent 3 "var metadataList = new List<IFunctionMetadata>();"]

/-- The lines of the provider class after the functions. -/
def providerClosing : List String :=
  [indent 3 "return Task.FromResult(metadataList.ToImmutableArray());",
    indent 2 "\x7d",
    indent 1 "\x7d"]

/-- The lines of the extension method. -/
def extensionLines : List String :=
  [indent 1 "/// <summary>",
    indent 1 ("/// Extension methods to enable registration of the custom " ++
      "<see cref=\"IFunctionMetadataProvider\"/> implementation generated for the current worker."),
    indent 1 "/// </summary>",
    indent 1 ("public static class " ++ extensionClass),
    indent 1 "\x7b",
    indent 2 "///<summary>",
    indent 2 ("/// Adds the " ++ providerClass ++ " to the service collection."),
    indent 2 ("/// During initialization, the worker will return generated function metadata " ++
      "instead of relying on the Azure Functions host for function indexing."),
    indent 2 "///</summary>",
    indent 2 ("public static IHostBuilder " ++ extensionMethod ++ "(this IHostBuilder builder)"),
    indent 2 "\x7b",
    indent 3 "builder.ConfigureServices(s =>",
    indent 3 "\x7b",
    indent 4 ("s.AddSingleton<IFunctionMetadataProvider, " ++ providerClass ++ ">();"),
    indent 3 "\x7d);",
    indent 3 "return builder;",
    indent 2 "\x7d",
    indent 1 "\x7d"]

/-- The lines of the start-up class. -/
def startupLines : List String :=
  [indent 1 "/// <summary>",
    indent 1 ("/// Auto startup class to register the custom " ++
      "<see cref=\"IFunctionMetadataProvider\"/> implementation generated for the current worker."),
    indent 1 "/// </summary>",
    indent 1 ("[global::System.ComponentModel.EditorBrowsableAttribute(" ++
      "global::System.ComponentModel.EditorBrowsableState.Never)]"),
    indent 1 ("public class " ++ startupClass ++ " : IAutoConfigureStartup"),
    indent 1 "\x7b",
    indent 2 "/// <summary>",
    indent 2 ("/// Configures the <see cref=\"IHostBuilder\"/> to use the custom " ++
      "<see cref=\"IFunctionMetadataProvider\"/> implementation generated for the current worker."),
    indent 2 "/// </summary>",
    indent 2 ("/// <param name=\"hostBuilder\">The <see cref=\"IHostBuilder\"/> instance " ++
      "to use for service registration.</param>"),
    indent 2 "public void Configure(IHostBuilder hostBuilder)",
    indent 2 "\x7b",
    indent 3 ("hostBuilder." ++ extensionMethod ++ "();"),
    indent 2 "\x7d",
    indent 1 "\x7d"]

/-- All lines of the file. -/
def lines (options : Options) (records : List FunctionRecord) : List String :=
  headerLines ++
  ["namespace " ++ options.nameSpace, "\x7b"] ++
  providerOpening ++ records.flatMap functionLines ++ providerClosing ++
  [""] ++ extensionLines ++
  (if options.autoRegister then "" :: startupLines else []) ++
  ["\x7d"]

/-- The text of the file: each line is ended by a line feed. -/
def source (options : Options) (records : List FunctionRecord) : String :=
  String.ofList ((lines options records).flatMap fun line => line.toList ++ ['\n'])

/-! ## Rendering as a phase -/

/-- One look at the cancellation flag for each record. -/
def checkEach : List FunctionRecord → Pass Unit
  | [] => pure ()
  | _ :: records => do
    Pass.check
    checkEach records

/-- Renders the provider of the records. -/
def render (options : Options) (records : List FunctionRecord) : Pass String := do
  checkEach records
  let text := source options records
  Pass.record (.providerRendered records.length text.utf8ByteSize options.autoRegister)
  return text

end RouteIndex.Provider
