/-
  Configuration of the log: from the environment, with the level of the command line over it.

  A level that has no such name counts as `info` and is complained about; so reading a level gives
  the complaint beside it.  A filter in the environment replaces everything else.
-/

import RouteIndex.Log.Filter
import RouteIndex.Settings

namespace RouteIndex.Log

/-- The target that all events are parts of. -/
def target : String :=
  "fnmeta"

/-- How events are logged. -/
structure Config where
  level : Level := .info
  useJson : Bool := false
  includeTarget : Bool := true
  /-- Whether a line tells where its event comes from; that is wanted with JSON only. -/
  includeLocation : Bool := false
  deriving DecidableEq, Repr

/-- The complaint about a level that has no such name. -/
def unknownLevel (name : String) : String :=
  "Invalid log level '" ++ name ++
    "', defaulting to INFO. Valid levels: trace, debug, info, warn, error\n"

/-- The level of a name, and what there is to complain about. -/
def readLevel (name : String) : Level × String :=
  match Level.ofName? name with
  | some level => (level, "")
  | none => (.info, unknownLevel name)

/-- The configuration that the environment asks for, and what there is to complain about. -/
def Config.ofEnvironment (env : Environment) : Config × String :=
  let (level, complaint) := match env.logLevel with
    | some name => readLevel name
    | none => (.info, "")
  let useJson := env.logJson = some "true"
  ({ level := level, useJson := useJson, includeLocation := useJson }, complaint)

/-- The filter for a level, unless the environment has one. -/
def filterFor (env : Environment) (level : Level) : Filter :=
  match env.logFilter with
  | some s => .ofText s
  | none => Filter.errorsOnly.insert { target := some target, threshold := some level }

/-- What there is to complain about in the filter of the environment. -/
def filterComplaints (env : Environment) : String :=
  String.join ((env.logFilter.map complaints).getD [])

end RouteIndex.Log
