/-
  The program: from words and an environment to what is printed.

  The log is configured before anything runs, and every complaint about its configuration is printed
  first; then the command runs, and its events pass the filter.
-/

import RouteIndex.Command
import RouteIndex.Log.Config

namespace RouteIndex.Program

/-- The name of the program. -/
def name : String :=
  "fnmeta"

/-- The version of the program. -/
def version : String :=
  "0.3.0"

/-- The exit code of a command line that cannot be read. -/
def usageCode : Nat :=
  2

/-! ## Words that ask for nothing to be done -/

/-- How the program is used. -/
def usage : String :=
  "Usage: " ++ name ++ " [OPTIONS] <COMMAND>\n\nCommands:\n" ++
    "  generate  Generate the metadata provider source\n" ++
    "  scan      Report discovered functions without generating code\n" ++
    "  help      Print this message or the help of the given subcommand(s)\n"

/-- What is wrong with a command line. -/
def complaint : CommandLine.Refusal → String
  | .helpWanted | .versionWanted | .nothingGiven => ""
  | .subcommandMissing => "error: a subcommand is required\n\n"
  | .subcommandUnknown => "error: unrecognized subcommand\n\n"
  | .argumentUnknown => "error: unexpected argument\n\n"
  | .valueInvalid => "error: invalid or missing value of an option\n\n"
  | .valueUnexpected => "error: a value for an option that takes none\n\n"
  | .conflict => "error: options that cannot be used together or more than once\n\n"
  | .treesMissing => "error: required arguments were not provided: <TREE>...\n\n"

/-- The outcome of a command line that is not carried out. -/
def refuse (r : CommandLine.Refusal) : Command.Outcome :=
  match r with
  | .helpWanted => ⟨Command.successCode, usage, "", []⟩
  | .versionWanted => ⟨Command.successCode, name ++ " " ++ version ++ "\n", "", []⟩
  | r => ⟨usageCode, "", complaint r ++ usage, []⟩

/-! ## Running -/

/-- The configuration of the log: the command line over the environment.  The complaint about the
environment comes first, also where the command line overrides it. -/
def logConfig (env : Environment) (o : CommandLine.LogOptions) : Log.Config × String :=
  let (config, complaint) := Log.Config.ofEnvironment env
  match o.logLevel with
  | some level =>
    let (level, another) := Log.readLevel level
    ({ config with level := level }, complaint ++ another)
  | none =>
    if o.verbose then ({ config with level := .debug }, complaint)
    else if o.quiet then ({ config with level := .error }, complaint)
    else (config, complaint)

/-- The events at the start of the program. -/
def openingEvents (words : List String) : List Event :=
  [.programStarted name version, .argumentsRead words]

/-- What the program leaves behind. -/
structure Outcome where
  /-- What there is to complain about before the command runs. -/
  complaints : String
  /-- The outcome of the command, with only those events that are logged. -/
  command : Command.Outcome
  /-- How events are written. -/
  config : Log.Config
  deriving DecidableEq, Repr

/-- Runs the program. -/
def run {m : Type → Type} [Monad m] (access : Files.Access m) (env : Environment)
    (words : List String) : m Outcome := do
  match CommandLine.read words with
  | .error r => return ⟨"", refuse r, {}⟩
  | .ok a =>
    let (config, complaint) := logConfig env a.log
    let filter := Log.filterFor env config.level
    let o ← Command.run access env a
    let events := (openingEvents words ++ o.events).filter filter.allows
    return ⟨complaint ++ Log.filterComplaints env, { o with events := events }, config⟩

end RouteIndex.Program
