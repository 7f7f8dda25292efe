/-
  Stores: the files and directories of a machine, seen from a working directory, as a value.

  A path is followed step by step (`Store.follow`); every step leads out of a directory that must be
  there, and no name may be too long.  What is wrong with a path as a whole (`pathError?`) comes
  before everything else.  A path starts in the working directory or at the root of the machine.
  Where the working directory itself lies is not known, so the steps up from it lead to directories
  of their own, in which there is nothing but what is put there.

  `createDirectories` tries the whole path first and looks at its parent only if that is missing;
  what has been made stays, even if a later step fails.
-/

import RouteIndex.Files.Access
import RouteIndex.Text.Blank

namespace RouteIndex.Files

/-- What stands at a place. -/
inductive Entry where
  | directory
  | file (bytes : List UInt8)
  deriving DecidableEq, Inhabited

/-- The names that lead from the working directory to a place, after some steps up; behind a slash,
the names that lead there from the root of the machine. -/
abbrev Place : Type :=
  List String

/-- The root of the machine. -/
def root : Place :=
  ["/"]

/-- The step up in a place. -/
def parentName : String :=
  ".."

/-- Whether a place is the root, the working directory, or one of those above it. -/
def isBase (place : Place) : Bool :=
  place = root || place.all (· = parentName)

/-- Whether a place does not lie in the working directory. -/
def isOutside (place : Place) : Bool :=
  root.isPrefixOf place || place.head? = some parentName

/-- All entries that are no bases. -/
structure Store where
  entries : List (Place × Entry) := []
  deriving DecidableEq, Inhabited

/-- The directories that every machine has at its root. -/
def rootDirectories : List String :=
  ["bin", "boot", "dev", "etc", "home", "lib", "media", "mnt", "opt", "proc", "root", "run", "sbin",
    "srv", "sys", "tmp", "usr", "var"]

/-- A store with nothing in the working directory. -/
def Store.fresh : Store :=
  ⟨(root ++ ["dev", "null"], .file []) ::
    rootDirectories.map fun name => (root ++ [name], .directory)⟩

/-! ## Paths -/

/-- A step of a path. -/
inductive Step where
  | name (s : String)
  | up
  /-- The place itself, which must be a directory. -/
  | here
  deriving DecidableEq, Repr

/-- Whether a path starts at the root of the machine. -/
def isAbsolute (path : String) : Bool :=
  path.toList.head? = some '/'

/-- The place where a path starts. -/
def startOf (path : String) : Place :=
  if isAbsolute path then root else []

/-- The steps of a path. -/
def stepsOf (path : String) : List Step :=
  (Text.pieces '/' path.toList).map fun piece =>
    if piece = [] || piece = ['.'] then .here
    else if piece = ['.', '.'] then .up
    else .name (String.ofList piece)

/-- The greatest length of a name, in bytes. -/
def nameLimit : Nat :=
  255

/-- The greatest length of a path, in bytes. -/
def pathLimit : Nat :=
  4095

/-- What is wrong with a path, wherever it leads.  No file has the empty path. -/
def pathError? (path : String) : Option Error :=
  if path.isEmpty then some .notFound
  else if path.toList.contains '\x00' then some .nulInPath
  else if pathLimit < path.utf8ByteSize then some .nameTooLong
  else none

/-- A path without slashes at its end. -/
def withoutEndSlashes (path : String) : String :=
  String.ofList ((path.toList.reverse.dropWhile (· = '/')).reverse)

/-- The steps that lead somewhere else. -/
def properSteps (steps : List Step) : List Step :=
  steps.filter (· ≠ .here)

namespace Store

/-! ## Places -/

/-- What stands at a place; the bases are always there. -/
def entry? (s : Store) (place : Place) : Option Entry :=
  if isBase place then some .directory else s.entries.lookup place

/-- Sets what stands at a place. -/
def set (s : Store) (place : Place) (e : Entry) : Store :=
  ⟨(place, e) :: s.entries.filter (·.1 ≠ place)⟩

/-- The place one step up; above the root there is the root itself. -/
def above (place : Place) : Place :=
  if place = root then root
  else if isBase place then place ++ [parentName]
  else place.dropLast

/-- The place that steps lead to; it need not be there itself. -/
def follow (s : Store) : Place → List Step → Except Error Place
  | place, [] => .ok place
  | place, step :: steps =>
    match s.entry? place with
    | none => .error .notFound
    | some (.file _) => .error .notADirectory
    | some .directory =>
      match step with
      | .name n =>
        if nameLimit < n.utf8ByteSize then .error .nameTooLong else s.follow (place ++ [n]) steps
      | .up => s.follow (above place) steps
      | .here => s.follow place steps

/-- The place of a path. -/
def placeOf (s : Store) (path : String) : Except Error Place :=
  match pathError? path with
  | some e => .error e
  | none => s.follow (startOf path) (stepsOf path)

/-! ## Files -/

/-- The text of a file. -/
def readText (path : String) : StateM Store (Except Error String) := fun s =>
  let result := match s.placeOf path with
    | .error e => .error e
    | .ok place =>
      match s.entry? place with
      | none => .error .notFound
      | some .directory => .error .isADirectory
      | some (.file bytes) =>
        match String.fromUTF8? ⟨bytes.toArray⟩ with
        | some text => .ok text
        | none => .error .notText
  (result, s)

/-- Gives a file new bytes. -/
def writeBytes (path : String) (bytes : List UInt8) : StateM Store (Except Error Unit) := fun s =>
  match s.placeOf path with
  | .error e => (.error e, s)
  | .ok place =>
    match s.entry? place with
    | some .directory => (.error .isADirectory, s)
    | _ => (.ok (), s.set place (.file bytes))

/-- Gives a file a new text. -/
def writeText (path text : String) : StateM Store (Except Error Unit) :=
  writeBytes path text.toUTF8.data.toList

/-! ## Directories -/

/-- Whether steps lead to a directory. -/
def isDirectory (s : Store) (start : Place) (steps : List Step) : Bool :=
  match s.follow start steps with
  | .ok place => s.entry? place = some .directory
  | .error _ => false

/-- Makes the directory at the end of steps, whose parent must be there. -/
def createDirectory (s : Store) (start : Place) (steps : List Step) : Except Error Store :=
  match s.follow start (steps ++ [.here]) with
  | .ok _ => .error .alreadyExists
  | .error _ =>
    match s.follow start steps with
    | .error e => .error e
    | .ok place =>
      match s.entry? place with
      | none => .ok (s.set place .directory)
      | some _ => .error .alreadyExists

/-- Makes the directory at the end of steps; if its parent is missing, makes that first. -/
def ensure (start : Place) (parents : StateM Store (Except Error Unit)) (steps : List Step) :
    StateM Store (Except Error Unit) := fun s =>
  let settle (s : Store) (e : Error) : Except Error Unit × Store :=
    if s.isDirectory start steps then (.ok (), s) else (.error e, s)
  match s.createDirectory start steps with
  | .ok s => (.ok (), s)
  | .error .notFound =>
    match parents s with
    | (.error e, s) => (.error e, s)
    | (.ok (), s) =>
      match s.createDirectory start steps with
      | .ok s => (.ok (), s)
      | .error e => settle s e
  | .error e => settle s e

/-- Makes the directory at the end of steps, which are given backwards, and its parents. -/
def ensureAll (start : Place) : List Step → StateM Store (Except Error Unit)
  | [] => fun s => (.ok (), s)
  | step :: before => ensure start (ensureAll start before) (step :: before).reverse

/-- Makes a directory and all directories on the way to it; an empty path needs none. -/
def createDirectories (path : String) : StateM Store (Except Error Unit) :=
  if path.isEmpty then fun s => (.ok (), s)
  else match pathError? path with
    | some e => fun s => (.error e, s)
    | none =>
      let start := startOf path
      let steps := stepsOf (withoutEndSlashes path)
      ensure start (ensureAll start (properSteps steps).dropLast.reverse) steps

/-- Access to the files of a store. -/
def access : Access (StateM Store) where
  readText := readText
  createDirectories := createDirectories
  writeText := writeText

end Store

end RouteIndex.Files
