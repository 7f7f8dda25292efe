/-
  TOML values, and how they are written on one line.

  The keys of a table stand in the order of its list, which is ascending once a document has been
  completed.  A text is written in the simplest form that needs no escapes (`Form.ofText`): double
  quotes, single quotes, or three of them, and only if no form is without them, with escapes.
-/

import RouteIndex.Decimal.Double
import RouteIndex.Toml.Moment

namespace RouteIndex.Toml

/-- A number with a fractional part, or what stands for one. -/
inductive Fractional where
  | finite (isNegative : Bool) (magnitude : Double)
  | infinite (isNegative : Bool)
  | notANumber
  deriving DecidableEq, Repr

/-- A TOML value. -/
inductive Value where
  | text (s : String)
  | int (i : Int)
  | fractional (x : Fractional)
  | bool (b : Bool)
  | moment (m : Moment)
  | array (items : List Value)
  | table (entries : List (String × Value))
  deriving Inhabited

/-! ## Texts -/

/-- How a text is quoted. -/
inductive Form where
  | basic
  | literal
  | longBasic
  | longLiteral
  deriving DecidableEq, Repr

/-- A control character that has to be escaped. -/
def isControl (c : Char) : Bool :=
  (c.toNat < 0x20 && c ≠ '\t' && c ≠ '\n') || c.toNat = 0x7F

/-- The length of the longest run of a character. -/
def longestRun (c : Char) (cs : List Char) : Nat :=
  (cs.foldl (fun (best, current) d =>
    let current := if d = c then current + 1 else 0
    (max best current, current)) (0, 0)).1

/-- The form of a text. -/
def Form.ofText (cs : List Char) : Form :=
  let controls := cs.any isControl
  let escapes := controls || cs.contains '\\'
  let lines := cs.contains '\n'
  let doubles := longestRun '"' cs
  let singles := longestRun '\'' cs
  if !escapes && doubles = 0 && !lines then .basic
  else if !controls && singles = 0 && !lines then .literal
  else if !escapes && doubles ≤ 2 then .longBasic
  else if !controls && singles ≤ 2 then .longLiteral
  else if lines then .longBasic
  else .basic

/-- The form of a key that is not bare. -/
def Form.ofKey (cs : List Char) : Form :=
  let controls := cs.any fun c => isControl c || c = '\n'
  if !controls && !cs.contains '\\' && !cs.contains '"' then .basic
  else if !controls && !cs.contains '\'' then .literal
  else .basic

/-- How a character, other than a quote, stands in a basic text. -/
def escapeChar (isLong : Bool) (c : Char) : List Char :=
  match c with
  | '\x08' => ['\\', 'b']
  | '\t' => ['\\', 't']
  | '\n' => if isLong then ['\n'] else ['\\', 'n']
  | '\x0c' => ['\\', 'f']
  | '\r' => ['\\', 'r']
  | '\\' => ['\\', '\\']
  | c =>
    if isControl c then '\\' :: 'u' :: (Text.hexDigits 4 c.toNat).map Char.toUpper else [c]

/-- The text with escapes; of a run of quotes, `allowed` many may stand before one is escaped. -/
def escapeText (isLong : Bool) (allowed : Nat) : Nat → List Char → List Char
  | _, [] => []
  | run, '"' :: cs =>
    if run < allowed then '"' :: escapeText isLong allowed (run + 1) cs
    else '\\' :: '"' :: escapeText isLong allowed 0 cs
  | _, c :: cs => escapeChar isLong c ++ escapeText isLong allowed 0 cs

/-- A text in a form; a long form with several lines starts on a line of its own. -/
def Form.write (form : Form) (cs : List Char) : List Char :=
  let opening := if cs.contains '\n' then ['\n'] else []
  match form with
  | .basic => '"' :: escapeText false 0 0 cs ++ ['"']
  | .literal => '\'' :: cs ++ ['\'']
  | .longBasic => "\"\"\"".toList ++ opening ++ escapeText true 2 0 cs ++ "\"\"\"".toList
  | .longLiteral => "'''".toList ++ opening ++ cs ++ "'''".toList

/-- A text in quotes. -/
def quotedText (s : String) : List Char :=
  (Form.ofText s.toList).write s.toList

/-- A character that a bare key may have. -/
def isBareKeyChar (c : Char) : Bool :=
  c.isAlphanum || c = '_' || c = '-'

/-- A key, in quotes if it needs them. -/
def keyText (key : String) : List Char :=
  let cs := key.toList
  if !cs.isEmpty && cs.all isBareKeyChar then cs else (Form.ofKey cs).write cs

/-! ## Values -/

/-- The text of a fractional number. -/
def Fractional.text : Fractional → List Char
  | .finite isNegative magnitude =>
    (if isNegative then ['-'] else []) ++ magnitude.shortest.positional
  | .infinite isNegative => (if isNegative then ['-'] else []) ++ ['i', 'n', 'f']
  | .notANumber => ['n', 'a', 'n']

namespace Value

mutual

/-- The text of a value. -/
def write : Value → List Char
  | .text s => quotedText s
  | .int i => Text.integerDigits i
  | .fractional x => x.text
  | .bool true => ['t', 'r', 'u', 'e']
  | .bool false => ['f', 'a', 'l', 's', 'e']
  | .moment m => m.text
  | .array items => '[' :: writeItems items ++ [']']
  | .table [] => ['{', '}']
  | .table (entry :: entries) => '{' :: ' ' :: writeEntries (entry :: entries) ++ [' ', '}']

/-- The items of an array, with commas between them. -/
def writeItems : List Value → List Char
  | [] => []
  | v :: vs => v.write ++ (if vs.isEmpty then [] else ',' :: ' ' :: writeItems vs)

/-- The entries of a table, with commas between them. -/
def writeEntries : List (String × Value) → List Char
  | [] => []
  | (key, v) :: entries =>
    keyText key ++ ' ' :: '=' :: ' ' :: v.write ++
      (if entries.isEmpty then [] else ',' :: ' ' :: writeEntries entries)

end

end Value

end RouteIndex.Toml
