/-
  Commands: `generate` renders the unit of syntax trees, `scan` reports what is in them.

  A command is written against some access to files.  It keeps a transcript, the events and the
  output so far, and ends early with the first `Failure`.  Output is the last thing that a command
  does, so a command that fails has given none; only a directory may already have been made for it.
-/

import RouteIndex.CommandLine
import RouteIndex.Files.Access
import RouteIndex.PropertiesFile

namespace RouteIndex.Command

open Files (Access join)
open Syntax (Tree)

/-! ## Failures -/

/-- Why a command ended without its result. -/
inductive Failure where
  /-- A file of properties cannot be read, or, without an error of the system, is no document. -/
  | propertiesFile (path : String) (cause : Option Files.Error)
  | property (e : Properties.Error)
  | settings (e : Settings.Error)
  | assemblyName (e : Settings.Error)
  | treeFile (path : String) (e : Files.Error)
  | tree (path : String) (e : Tree.Error)
  | cancelled (e : Cancelled)
  | outputDirectory (path : String) (e : Files.Error)
  | outputFile (path : String) (e : Files.Error)
  deriving DecidableEq, Repr

/-- What was being done, and the cause behind it. -/
def Failure.message : Failure → String
  | .propertiesFile path cause =>
    "Failed to load build properties from " ++ path ++ ": Failed to read build properties from " ++
      path ++ ": " ++ (cause.map Files.Error.message).getD "not a document in TOML form"
  | .property e => "Invalid --property value: " ++ e.message
  | .settings e => "Failed to resolve generator configuration: " ++ e.message
  | .assemblyName e => "Invalid assembly name: " ++ e.message
  | .treeFile path e =>
    "Failed to load syntax tree " ++ path ++ ": Failed to read syntax tree " ++ path ++ ": " ++
      e.message ++ ": " ++ e.message
  | .tree path e => "Failed to load syntax tree " ++ path ++ ": " ++ e.message
  | .cancelled e => e.message
  | .outputDirectory path e => "Failed to create output directory " ++ path ++ ": " ++ e.message
  | .outputFile path e => "Failed to write " ++ path ++ ": " ++ e.message

/-! ## Running -/

/-- What a command has told so far. -/
structure Transcript where
  events : List Event := []
  output : String := ""
  deriving DecidableEq, Repr, Inhabited

/-- A command under way. -/
abbrev Run (m : Type → Type) : Type → Type :=
  ExceptT Failure (StateT Transcript m)

variable {m : Type → Type} [Monad m]

/-- Records an event. -/
def log (e : Event) : Run m Unit :=
  modify fun t => { t with events := t.events ++ [e] }

/-- Prints a text. -/
def print (s : String) : Run m Unit :=
  modify fun t => { t with output := t.output ++ s }

/-- Does something with files; an error becomes the failure of the command. -/
def attempt {α : Type} (failure : Files.Error → Failure) (work : m (Except Files.Error α)) :
    Run m α := do
  match ← (work : m (Except Files.Error α)) with
  | .ok a => return a
  | .error e => throw (failure e)

/-- Runs a pass that nobody cancels. -/
def runPass {α : Type} (p : Pass α) : Run m α := do
  let (result, watch) := p.run .live
  modify fun t => { t with events := t.events ++ watch.events }
  match result with
  | .ok a => return a
  | .error e => throw (.cancelled e)

/-! ## Input -/

/-- The properties of a file, if there is one. -/
def fileProperties (access : Access m) : Option String → Run m Properties
  | none => return .empty
  | some path => do
    let text ← attempt (fun e => .propertiesFile path (some e)) (access.readText path)
    match PropertiesFile.read? text with
    | some properties => return properties
    | none => throw (.propertiesFile path none)

/-- The properties of a file with those of pairs over them. -/
def loadProperties (access : Access m) (file : Option String) (pairs : List String) :
    Run m Properties := do
  let base ← fileProperties access file
  match Properties.ofPairs pairs with
  | .ok properties => return base.merge properties
  | .error e => throw (.property e)

/-- The tree of a file, named for the file unless it has a path of its own. -/
def loadTree (access : Access m) (path : String) : Run m Tree := do
  let text ← attempt (.treeFile path) (access.readText path)
  match Tree.ofText text with
  | .ok tree => return { tree with path := some (tree.path.getD path) }
  | .error e => throw (.tree path e)

/-- The trees of files, in their order. -/
def loadTrees (access : Access m) : List String → Run m (List Tree)
  | [] => return []
  | path :: paths => do return (← loadTree access path) :: (← loadTrees access paths)

/-! ## Output -/

/-- Whether a file already has the content of a unit; a file that cannot be read has not. -/
def isCurrent (unit : GeneratedUnit) (existing : Except Files.Error String) : Bool :=
  match existing with
  | .ok text => GeneratedUnit.digestOf text = unit.digest
  | .error _ => false

/-- Writes a unit into a directory, unless it is there already; gives whether it was written. -/
def writeUnit (access : Access m) (directory : String) (unit : GeneratedUnit) : Run m Bool := do
  attempt (.outputDirectory directory) (access.createDirectories directory)
  let path := join directory unit.hintName
  let existing ← (access.readText path : m (Except Files.Error String))
  if isCurrent unit existing then
    log (.unitUnchanged path)
    return false
  else
    attempt (.outputFile path) (access.writeText path unit.source)
    log (.unitWritten path unit.digest)
    return true

/-- Gives out a unit: into a directory if there is one, or else as output. -/
def deliver (access : Access m) (outDir : Option String) (unit : GeneratedUnit) : Run m Unit := do
  match outDir with
  | some directory => let _ ← writeUnit access directory unit
  | none => print unit.source

/-! ## Commands -/

/-- Renders the unit of the trees and gives it out. -/
def generate (access : Access m) (env : Environment) (quiet : Bool) (trees : List String)
    (assemblyName buildProperties : Option String) (pairs : List String)
    (outDir : Option String) : Run m Unit := do
  let properties ← loadProperties access buildProperties pairs
  match Settings.resolve env properties assemblyName with
  | .error e => throw (.settings e)
  | .ok settings =>
    log (.settingsResolved settings.describe)
    let trees ← loadTrees access trees
    match ← runPass (Generation.generate (!quiet) settings trees) with
    | .skipped reason => log (.nothingGenerated reason)
    | .generated product =>
      product.diagnostics.forM fun d => log (.diagnosticRaised d)
      deliver access outDir product.unit

/-- Reports what is in the trees. -/
def scan (access : Access m) (quiet : Bool) (trees : List String) (assemblyName : String)
    (format : Report.Format) : Run m Unit := do
  let trees ← loadTrees access trees
  let settings := Settings.ofAssembly assemblyName
  match settings.validate with
  | .error e => throw (.assemblyName e)
  | .ok () =>
    let inspection ← runPass (Generation.inspect (!quiet) settings trees)
    print (Report.render format inspection ++ "\n")

/-- Carries out what the command line asks for. -/
def perform (access : Access m) (env : Environment) (a : CommandLine.Arguments) : Run m Unit :=
  match a.action with
  | .generate trees assemblyName buildProperties properties outDir =>
    generate access env a.log.quiet trees assemblyName buildProperties properties outDir
  | .scan trees assemblyName format => scan access a.log.quiet trees assemblyName format

/-! ## Outcomes -/

/-- What a command leaves behind, its files apart. -/
structure Outcome where
  exitCode : Nat
  output : String
  errorOutput : String
  events : List Event
  deriving DecidableEq, Repr

/-- The exit code of success. -/
def successCode : Nat :=
  0

/-- The exit code of a command that failed. -/
def failureCode : Nat :=
  1

/-- The outcome of a run that has ended. -/
def outcome (result : Except Failure Unit) (t : Transcript) : Outcome :=
  match result with
  | .ok () => ⟨successCode, t.output, "", t.events⟩
  | .error e => ⟨failureCode, t.output, "Error: " ++ e.message ++ "\n", t.events⟩

/-- Carries out what the command line asks for, to its end. -/
def run (access : Access m) (env : Environment) (a : CommandLine.Arguments) : m Outcome := do
  let (result, transcript) ← (perform access env a).run.run {}
  return outcome result transcript

end RouteIndex.Command
