/-
  The command line: words, and the arguments that they stand for.

  The words are read in two segments: the program's own options, then a subcommand with its options
  and trees.  An option that takes its value from the next word stays `pending` until something else
  comes, and only then counts; so of several faults the one that is met first is the one reported,
  and a value is looked at late.  `Segment.close` is the end of a segment: what is pending, then what
  must not or must be there.

  The options of logging may stand in both segments; a value of the inner one wins.
-/

import RouteIndex.Report
import RouteIndex.Text.Blank

namespace RouteIndex.CommandLine

/-! ## Arguments -/

/-- The options of logging. -/
structure LogOptions where
  logLevel : Option String := none
  verbose : Bool := false
  quiet : Bool := false
  deriving DecidableEq, Repr, Inhabited

/-- What is to be done. -/
inductive Action where
  | generate (trees : List String) (assemblyName buildProperties : Option String)
      (properties : List String) (outDir : Option String)
  | scan (trees : List String) (assemblyName : String) (format : Report.Format)
  deriving DecidableEq, Repr

/-- A whole command line. -/
structure Arguments where
  log : LogOptions
  action : Action
  deriving DecidableEq, Repr

/-- Why a command line is not carried out. -/
inductive Refusal where
  | helpWanted
  | versionWanted
  /-- There are no words at all. -/
  | nothingGiven
  | subcommandMissing
  | subcommandUnknown
  | argumentUnknown
  /-- A value is missing, or it is none that the option takes. -/
  | valueInvalid
  /-- A flag was given a value. -/
  | valueUnexpected
  /-- Two options exclude each other, or one was given twice. -/
  | conflict
  | treesMissing
  deriving DecidableEq, Repr

/-! ## Options -/

/-- The subcommands. -/
inductive Subcommand where
  | generate
  | scan
  deriving DecidableEq, Repr

/-- The subcommand of a name. -/
def Subcommand.ofName? (s : String) : Option Subcommand :=
  if s = "generate" then some .generate else if s = "scan" then some .scan else none

/-- Every option of the program. -/
inductive Switch where
  | logLevel
  | verbose
  | quiet
  | help
  | version
  | assemblyName
  | buildProperties
  | property
  | outDir
  | format
  deriving DecidableEq, Repr

namespace Switch

/-- Every option once. -/
def all : List Switch :=
  [.logLevel, .verbose, .quiet, .help, .version, .assemblyName, .buildProperties, .property,
    .outDir, .format]

/-- The name behind two dashes. -/
def longName : Switch → String
  | .logLevel => "log-level"
  | .verbose => "verbose"
  | .quiet => "quiet"
  | .help => "help"
  | .version => "version"
  | .assemblyName => "assembly-name"
  | .buildProperties => "build-properties"
  | .property => "property"
  | .outDir => "out-dir"
  | .format => "format"

/-- The letter behind one dash. -/
def letter? : Switch → Option Char
  | .verbose => some 'v'
  | .quiet => some 'q'
  | .help => some 'h'
  | .version => some 'V'
  | .property => some 'p'
  | .outDir => some 'o'
  | .format => some 'f'
  | .logLevel | .assemblyName | .buildProperties => none

/-- Whether the option has a value. -/
def takesValue : Switch → Bool
  | .verbose | .quiet | .help | .version => false
  | _ => true

/-- Whether the option may be given more than once. -/
def isRepeatable (s : Switch) : Bool :=
  s = .property

/-- Whether the option takes a value. -/
def accepts (s : Switch) (value : String) : Bool :=
  match s with
  | .buildProperties | .outDir => !value.isEmpty
  | .format => (Report.Format.ofName? value).isSome
  | _ => true

/-- Whether the option belongs to a segment: that of the program itself, or of a subcommand. -/
def belongsTo (s : Switch) : Option Subcommand → Bool
  | none => s = .version || s = .logLevel || s = .verbose || s = .quiet || s = .help
  | some .generate =>
    s = .logLevel || s = .verbose || s = .quiet || s = .help || s = .assemblyName ||
      s = .buildProperties || s = .property || s = .outDir
  | some .scan =>
    s = .logLevel || s = .verbose || s = .quiet || s = .help || s = .assemblyName || s = .format

end Switch

/-! ## Segments -/

/-- What has been given but does not count yet. -/
inductive Pending where
  | nothing
  /-- An option whose value is the next word. -/
  | awaiting (s : Switch)
  | filled (s : Switch) (value : String)
  | trees (paths : List String)
  deriving DecidableEq, Repr

/-- What has been read of one segment. -/
structure Segment where
  subcommand : Option Subcommand
  values : List (Switch × String) := []
  flags : List Switch := []
  trees : List String := []
  pending : Pending := .nothing
  /-- Whether two dashes have been seen, after which every word is a tree. -/
  onlyTrees : Bool := false
  deriving DecidableEq, Repr

namespace Segment

/-- The value of an option. -/
def value? (g : Segment) (s : Switch) : Option String :=
  g.values.lookup s

/-- Lets a value count. -/
def accept (g : Segment) (s : Switch) (value : String) : Except Refusal Segment :=
  if (g.value? s).isSome && !s.isRepeatable then .error .conflict
  else if s.accepts value then .ok { g with values := g.values ++ [(s, value)] }
  else .error .valueInvalid

/-- Lets count what is pending. -/
def settle (g : Segment) : Except Refusal Segment :=
  let free := { g with pending := .nothing }
  match g.pending with
  | .nothing => .ok g
  | .awaiting _ => .error .valueInvalid
  | .filled s value => free.accept s value
  | .trees paths =>
    if paths.any String.isEmpty then .error .valueInvalid
    else .ok { free with trees := g.trees ++ paths }

/-- Takes an option with the value that is attached to it, if there is one. -/
def option (g : Segment) (s : Switch) (attached : Option String) : Except Refusal Segment := do
  let g ← g.settle
  match attached with
  | some value => g.accept s value
  | none => return { g with pending := .awaiting s }

/-- Takes a flag. -/
def flag (g : Segment) (s : Switch) : Except Refusal Segment := do
  let g ← g.settle
  match s with
  | .help => throw .helpWanted
  | .version => throw .versionWanted
  | s => if g.flags.contains s then throw .conflict else return { g with flags := g.flags ++ [s] }

/-- The option of the segment that satisfies the condition. -/
def find? (g : Segment) (p : Switch → Bool) : Option Switch :=
  Switch.all.find? fun s => s.belongsTo g.subcommand && p s

/-- Takes an option by its name, with the value behind an equals sign, if there is one. -/
def longOption (g : Segment) (name : String) (attached : Option String) : Except Refusal Segment :=
  match g.find? (·.longName = name) with
  | none => .error .argumentUnknown
  | some s =>
    if s.takesValue then g.option s attached
    else if attached.isSome then .error .valueUnexpected
    else g.flag s

/-- A value that is written right behind its letter, with an equals sign or without. -/
def attachedValue? : List Char → Option String
  | [] => none
  | '=' :: cs => some (String.ofList cs)
  | cs => some (String.ofList cs)

/-- Takes options by their letters. -/
def letters (g : Segment) : List Char → Except Refusal Segment
  | [] => .ok g
  | c :: cs =>
    match g.find? (·.letter? = some c) with
    | none => .error .argumentUnknown
    | some s => if s.takesValue then g.option s (attachedValue? cs) else do (← g.flag s).letters cs

/-- Takes a word that is the path of a tree. -/
def tree (g : Segment) (path : String) : Except Refusal Segment :=
  match g.pending with
  | .trees paths => .ok { g with pending := .trees (paths ++ [path]) }
  | _ => do return { (← g.settle) with pending := .trees [path] }

/-- The option behind two dashes: its name, and the value behind an equals sign. -/
def splitLong (cs : List Char) : String × Option String :=
  match Text.cut? '=' cs with
  | some (name, value) => (String.ofList name, some (String.ofList value))
  | none => (String.ofList cs, none)

/-- The forms of a word. -/
inductive Word where
  | dashes
  | long (cs : List Char)
  | short (cs : List Char)
  | plain
  deriving DecidableEq, Repr

/-- The form of a word; one dash alone is plain. -/
def Word.ofText (s : String) : Word :=
  match s.toList with
  | ['-', '-'] => .dashes
  | '-' :: '-' :: cs => .long cs
  | '-' :: c :: cs => .short (c :: cs)
  | _ => .plain

/-- Takes a word that is an option, or the value that an option waits for; `none` for another
word. -/
def optionWord (g : Segment) (word : String) : Except Refusal (Option Segment) :=
  if g.onlyTrees then .ok none
  else match Word.ofText word with
    | .dashes => .ok (some { g with onlyTrees := true })
    | .long cs =>
      let (name, attached) := splitLong cs
      some <$> g.longOption name attached
    | .short cs => some <$> g.letters cs
    | .plain =>
      match g.pending with
      | .awaiting s => .ok (some { g with pending := .filled s word })
      | _ => .ok none

/-- Refuses what excludes each other. -/
def checkConflicts (g : Segment) : Except Refusal Unit :=
  if g.flags.contains .verbose && g.flags.contains .quiet then .error .conflict else .ok ()

/-- The options of logging that were given in the segment. -/
def logOptions (g : Segment) : LogOptions where
  logLevel := g.value? .logLevel
  verbose := g.flags.contains .verbose
  quiet := g.flags.contains .quiet

/-! ## The segment of a subcommand -/

/-- Takes the words of a subcommand. -/
def readTrees (g : Segment) : List String → Except Refusal Segment
  | [] => .ok g
  | word :: words => do
    match ← g.optionWord word with
    | some g => g.readTrees words
    | none => (← g.tree word).readTrees words

/-- The end of the segment of a subcommand. -/
def close (g : Segment) : Except Refusal Segment := do
  let g ← g.settle
  g.checkConflicts
  if g.trees.isEmpty then throw .treesMissing
  return g

/-- The assembly that a scan takes by default. -/
def defaultAssembly : String :=
  "App"

/-- What the words of a subcommand ask for. -/
def action (g : Segment) : Subcommand → Action
  | .generate =>
    .generate g.trees (g.value? .assemblyName) (g.value? .buildProperties)
      ((g.values.filter (·.1 = .property)).map (·.2)) (g.value? .outDir)
  | .scan =>
    .scan g.trees ((g.value? .assemblyName).getD defaultAssembly)
      (((g.value? .format).bind Report.Format.ofName?).getD .human)

end Segment

/-! ## The segment of the program -/

/-- The options of both segments together. -/
def mergeLogOptions (outer inner : LogOptions) : LogOptions where
  logLevel := inner.logLevel.or outer.logLevel
  verbose := outer.verbose || inner.verbose
  quiet := outer.quiet || inner.quiet

/-- Reads the words behind a subcommand, and then ends the segment of the program. -/
def readSubcommand (outer : Segment) (s : Subcommand) (words : List String) :
    Except Refusal Arguments := do
  let inner ← ({ subcommand := some s : Segment }).readTrees words
  let inner ← inner.close
  let outer ← outer.settle
  outer.checkConflicts
  return ⟨mergeLogOptions outer.logOptions inner.logOptions, inner.action s⟩

/-- The help that is asked for by a word: that of the program, of a subcommand, or of `help`. -/
def readHelp : List String → Refusal
  | [] => .helpWanted
  | [word] =>
    if (Subcommand.ofName? word).isSome || word = "help" then .helpWanted else .subcommandUnknown
  | _ => .subcommandUnknown

/-- Reads the words before a subcommand. -/
def readProgram (g : Segment) : List String → Except Refusal Arguments
  | [] => do
    let g ← g.settle
    if g.flags.isEmpty && g.values.isEmpty then throw .nothingGiven else throw .subcommandMissing
  | word :: words => do
    let named := Subcommand.ofName? word
    let isHelp := word = "help"
    let free := match g.pending with
      | .awaiting _ => false
      | _ => true
    if !g.onlyTrees && free && isHelp then throw (readHelp words)
    match g.onlyTrees, free, named with
    | false, true, some s => readSubcommand g s words
    | _, _, _ =>
      match ← g.optionWord word with
      | some g => readProgram g words
      | none =>
        throw (if g.onlyTrees && (named.isSome || isHelp) then .argumentUnknown
          else .subcommandUnknown)

/-- The arguments that words stand for. -/
def read (words : List String) : Except Refusal Arguments :=
  readProgram { subcommand := none } words

end RouteIndex.CommandLine
