/-
  The program on a machine: words and environment come from the system, files are those of the
  machine, and the outcome is printed.
-/

import RouteIndex.Log.Line
import RouteIndex.Program

namespace RouteIndex.Main

/-- The error of the system as an error of files. -/
def fileError (e : IO.Error) : Files.Error :=
  match e with
  | .noFileOrDirectory .. | .noSuchThing .. => .notFound
  | .alreadyExists .. => .alreadyExists
  | .inappropriateType _ 20 _ => .notADirectory
  | .inappropriateType _ 21 _ => .isADirectory
  | .invalidArgument _ 36 _ => .nameTooLong
  | e => .other (toString e)

/-- Does something with files, and keeps its error. -/
def guarded {α : Type} (work : IO α) : IO (Except Files.Error α) := do
  try
    return .ok (← work)
  catch e =>
    return .error (fileError e)

/-- Access to the files of the machine. -/
def fileAccess : Files.Access IO where
  readText path := do
    match ← guarded (IO.FS.readBinFile path) with
    | .error e => return .error e
    | .ok bytes =>
      match String.fromUTF8? bytes with
      | some text => return .ok text
      | none => return .error .notText
  createDirectories path := guarded (IO.FS.createDirAll path)
  writeText path text := guarded (IO.FS.writeFile path text)

/-- The environment of the process. -/
def readEnvironment : IO Environment := do
  return {
    enableGeneration := ← IO.getEnv "FNMETA_ENABLE_SOURCE_GEN"
    autoRegister := ← IO.getEnv "FNMETA_AUTO_REGISTER"
    nameSpace := ← IO.getEnv "FNMETA_NAMESPACE"
    logLevel := ← IO.getEnv "FNMETA_LOG_LEVEL"
    logJson := ← IO.getEnv "FNMETA_LOG_JSON"
    logFilter := ← IO.getEnv "RUST_LOG" }

end RouteIndex.Main

/-- Runs the program and gives its exit code. -/
def main (words : List String) : IO UInt32 := do
  let env ← RouteIndex.Main.readEnvironment
  let o ← RouteIndex.Program.run RouteIndex.Main.fileAccess env words
  IO.eprint o.complaints
  for e in o.command.events do
    IO.eprint (RouteIndex.Log.line o.config e)
  IO.print o.command.output
  IO.eprint o.command.errorOutput
  return UInt32.ofNat o.command.exitCode
