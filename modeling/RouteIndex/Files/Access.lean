/-
  Access to files: the three things that a command does with them, in any monad.

  A command is written against `Access m`; with `m` the monad of a program it works on the files of
  the machine, and with a state monad on a `Store`, about which one can reason.
-/

namespace RouteIndex.Files

/-- Why a file could not be read or written. -/
inductive Error where
  | notFound
  | alreadyExists
  | notADirectory
  | isADirectory
  /-- A path, or one of the names in it, is too long. -/
  | nameTooLong
  /-- A path holds the character U+0000, which ends a path. -/
  | nulInPath
  /-- The bytes of the file are no text. -/
  | notText
  | other (message : String)
  deriving DecidableEq, Repr, Inhabited

/-- The text of an error, with the number of the system where there is one. -/
def Error.message : Error → String
  | .notFound => "No such file or directory (os error 2)"
  | .alreadyExists => "File exists (os error 17)"
  | .notADirectory => "Not a directory (os error 20)"
  | .isADirectory => "Is a directory (os error 21)"
  | .nameTooLong => "File name too long (os error 36)"
  | .nulInPath => "file name contained an unexpected NUL byte"
  | .notText => "stream did not contain valid UTF-8"
  | .other message => message

/-- What can be done with files. -/
structure Access (m : Type → Type) where
  /-- The text of a file. -/
  readText : String → m (Except Error String)
  /-- Makes a directory and all directories on the way to it, as far as they are missing. -/
  createDirectories : String → m (Except Error Unit)
  /-- Gives a file a new text. -/
  writeText : String → String → m (Except Error Unit)

/-- The path of a name in a directory; an empty path stands for the working directory. -/
def join (directory name : String) : String :=
  if directory.isEmpty || directory.toList.getLast? = some '/' then directory ++ name
  else directory ++ "/" ++ name

end RouteIndex.Files
