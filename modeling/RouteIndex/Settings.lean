/-
  Settings of a pass, and how they are resolved.

  Each setting has its sources in an order of precedence.  The name of the assembly is the explicit
  one, even a blank one, or else a property.  The switches and the namespace are taken from the
  environment, or else from a property; a blank namespace means the one derived from the assembly.
  `Settings.resolve` gives settings that `validate` accepts, or the error that `validate` would.
-/

import RouteIndex.Namespace
import RouteIndex.Properties
import RouteIndex.Text.Quoted

namespace RouteIndex

/-- The variables of the environment that a run looks at; a value that is no text counts as unset. -/
structure Environment where
  enableGeneration : Option String := none
  autoRegister : Option String := none
  nameSpace : Option String := none
  logLevel : Option String := none
  logJson : Option String := none
  logFilter : Option String := none
  deriving DecidableEq, Repr, Inhabited

/-- The settings of one pass. -/
structure Settings where
  /-- The switch of the whole pass. -/
  enabled : Bool
  /-- Whether the unit registers its provider at start-up. -/
  autoRegister : Bool
  assemblyName : String
  nameSpace : String
  deriving DecidableEq, Repr, Inhabited

namespace Settings

/-! ## Names of properties -/

/-- The property of the switch. -/
def enableKey : String :=
  "build_property.FunctionsEnableMetadataSourceGen"

/-- The property of the registration at start-up. -/
def autoRegisterKey : String :=
  "build_property.FunctionsAutoRegisterGeneratedMetadataProvider"

/-- The property of the namespace. -/
def namespaceKey : String :=
  "build_property.FunctionsGeneratedCodeNamespace"

/-- The property of the assembly. -/
def assemblyKey : String :=
  "build_property.AssemblyName"

/-! ## Errors -/

/-- Why there are no settings. -/
inductive Error where
  | missingAssemblyName
  | invalidNamespace (given : String)
  deriving DecidableEq, Repr

/-- The text of an error. -/
def Error.message : Error → String
  | .missingAssemblyName =>
    "No assembly name given. Pass --assembly-name or set build_property.AssemblyName"
  | .invalidNamespace given =>
    "Invalid namespace '" ++ given ++
      "': segments must be identifiers separated by '.' (prefix keywords with '@')"

/-! ## Making settings -/

/-- The settings that an assembly has by default. -/
def ofAssembly (assembly : String) : Settings where
  enabled := true
  autoRegister := false
  assemblyName := assembly
  nameSpace := Namespace.ofAssembly assembly

/-- Refuses settings that a pass cannot use. -/
def validate (s : Settings) : Except Error Unit :=
  if Text.isBlankText s.assemblyName.toList then .error .missingAssemblyName
  else if Namespace.isValid s.nameSpace then .ok ()
  else .error (.invalidNamespace s.nameSpace)

/-- A switch: the environment decides if it has a value, and else the property. -/
def switch (override : Option String) (p : Properties) (key : String) : Bool :=
  match override with
  | some value => Properties.meansYes value
  | none => p.isYes key

/-- The text without blanks at its ends, if anything is left. -/
def nonBlank? (s : String) : Option String :=
  let cs := Text.trim s.toList
  if cs.isEmpty then none else some (String.ofList cs)

/-- The settings that an explicit name, the environment and the properties give. -/
def resolve (env : Environment) (p : Properties) (explicit : Option String) :
    Except Error Settings :=
  match (explicit.or (p.get? assemblyKey)).bind nonBlank? with
  | none => .error .missingAssemblyName
  | some assembly =>
    let given := (env.nameSpace.or (p.get? namespaceKey)).bind nonBlank?
    let settings : Settings :=
      { enabled := switch env.enableGeneration p enableKey
        autoRegister := switch env.autoRegister p autoRegisterKey
        assemblyName := assembly
        nameSpace := given.getD (Namespace.ofAssembly assembly) }
    match settings.validate with
    | .ok () => .ok settings
    | .error e => .error e

/-! ## Showing settings -/

/-- A truth value as a text. -/
def truth : Bool → String
  | true => "true"
  | false => "false"

/-- The settings as texts by name, in ascending order of the names. -/
def entries (s : Settings) : List (String × String) :=
  [("assembly_name", s.assemblyName), ("auto_register", truth s.autoRegister),
    ("enabled", truth s.enabled), ("namespace", s.nameSpace)]

/-- The entries on one line. -/
def describe (s : Settings) : String :=
  "\x7b" ++ ", ".intercalate (s.entries.map fun (key, value) =>
    Text.quoted key ++ ": " ++ Text.quoted value) ++ "\x7d"

/-- The settings for a reader. -/
def display (s : Settings) : String :=
  "Generator Configuration:\n  Enabled: " ++ truth s.enabled ++
    "\n  Auto Register: " ++ truth s.autoRegister ++
    "\n  Assembly: " ++ s.assemblyName ++
    "\n  Namespace: " ++ s.nameSpace ++ "\n"

end Settings

end RouteIndex
