/-
  TOML documents from their text.

  A document is read into its lines, and the lines are put together by `document?`.  Values nest:
  `value levels` takes arrays and tables that are so many levels deep, and a scalar at the bottom.
  Everything that may stand between two parts of a line is a scan of its own (`blanks`, `filler`).
-/

import RouteIndex.Text.Scan
import RouteIndex.Toml.Table

namespace RouteIndex.Toml

open Text Text.Scan

/-! ## Blanks, line ends and comments -/

/-- A space or a tab. -/
def isBlankChar (c : Char) : Bool :=
  c = ' ' || c = '\t'

/-- Blanks on the line. -/
def blanks : Scan Unit := do
  let _ ← run isBlankChar

/-- A line feed, perhaps with a carriage return before it. -/
def lineFeed : Scan Unit :=
  word ['\n'] <|> word ['\r', '\n']

/-- A character that may stand in a comment. -/
def isCommentChar (c : Char) : Bool :=
  c = '\t' || (0x20 ≤ c.toNat && c.toNat ≠ 0x7F)

/-- A comment, up to the end of the line. -/
def comment : Scan Unit := do
  let _ ← char (· = '#')
  let _ ← run isCommentChar

/-- The end of a line, or of the document. -/
def lineEnd : Scan Unit :=
  lineFeed <|> atEnd

/-- What may follow the last part of a line. -/
def lineTail : Scan Unit := do
  blanks
  let _ ← optional comment
  lineEnd

/-- What may stand between the parts of an array: blanks, line ends and comments. -/
def filler : Scan Unit := do
  let _ ← many ((do let _ ← run1 isBlankChar) <|> lineFeed <|> comment)

/-! ## Texts -/

/-- The character that so many hexadecimal digits denote. -/
def codePoint (width : Nat) : Scan Char := do
  let digits ← (List.replicate width ()).mapM fun _ => char fun c => (hexValue? c).isSome
  let n := (digits.filterMap hexValue?).foldl (fun n d => 16 * n + d) 0
  guard n.isValidChar
  return Char.ofNat n

/-- The character that an escape denotes, after its backslash. -/
def escape : Scan Char := do
  match ← char fun _ => true with
  | 'b' => return '\x08'
  | 't' => return '\t'
  | 'n' => return '\n'
  | 'f' => return '\x0c'
  | 'r' => return '\r'
  | '"' => return '"'
  | '\\' => return '\\'
  | 'u' => codePoint 4
  | 'U' => codePoint 8
  | _ => failure

/-- A character between double quotes. -/
def basicChar : Scan Char :=
  char (fun c => isCommentChar c && c ≠ '"' && c ≠ '\\') <|> (char (· = '\\') *> escape)

/-- A character between single quotes. -/
def literalChar : Scan Char :=
  char fun c => isCommentChar c && c ≠ '\''

/-- A text on one line in double quotes. -/
def basicText : Scan (List Char) :=
  char (· = '"') *> many basicChar <* char (· = '"')

/-- A text on one line in single quotes. -/
def literalText : Scan (List Char) :=
  char (· = '\'') *> many literalChar <* char (· = '\'')

/-- One or two quotes that do not end a text in three of them. -/
def innerQuotes (quote : Char) : Scan (List Char) := do
  let quotes ← run1 (· = quote)
  guard (quotes.length ≤ 2)
  return quotes

/-- The three quotes at the end of a text, and up to two more that belong to it. -/
def closingQuotes (quote : Char) : Scan (List Char) := do
  let quotes ← run (· = quote)
  guard (3 ≤ quotes.length && quotes.length ≤ 5)
  return quotes.drop 3

/-- A backslash at the end of a line takes away all blanks up to the next text. -/
def lineJoin : Scan (List Char) := do
  let _ ← char (· = '\\')
  blanks
  lineFeed
  let _ ← many ((do let _ ← run1 isBlankChar) <|> lineFeed)
  return []

/-- A line end in a text. -/
def innerLineFeed : Scan (List Char) := do
  lineFeed
  return ['\n']

/-- A text in three quotes, made of pieces; a line end right after the opening does not count. -/
def longText (quote : Char) (piece : Scan (List Char)) : Scan (List Char) := do
  word [quote, quote, quote]
  let _ ← optional lineFeed
  let pieces ← many (innerLineFeed <|> innerQuotes quote <|> piece)
  return pieces.flatten ++ (← closingQuotes quote)

/-- A text in three double quotes. -/
def longBasicText : Scan (List Char) :=
  longText '"' (lineJoin <|> List.singleton <$> basicChar)

/-- A text in three single quotes. -/
def longLiteralText : Scan (List Char) :=
  longText '\'' (List.singleton <$> literalChar)

/-- A text in quotes of any kind. -/
def quotedValue : Scan String :=
  String.ofList <$> (longBasicText <|> basicText <|> longLiteralText <|> literalText)

/-! ## Keys -/

/-- A key without dots. -/
def simpleKey : Scan String :=
  String.ofList <$> (basicText <|> literalText <|> run1 isBareKeyChar)

/-- The most parts that a key may have. -/
def maxKeyParts : Nat :=
  79

/-- A key, split into the path before its last part and that part. -/
def key : Scan (List String × String) := do
  let parts ← separated (blanks *> simpleKey <* blanks) (char (· = '.'))
  guard (parts.length ≤ maxKeyParts)
  match parts.reverse with
  | last :: before => return (before.reverse, last)
  | [] => failure

/-! ## Numbers -/

/-- One more digit of a number, perhaps after an underscore. -/
def nextDigit (p : Char → Bool) : Scan Char := do
  let _ ← optional (char (· = '_'))
  char p

/-- One or more digits, with single underscores between them. -/
def digitRun (p : Char → Bool) : Scan (List Char) := do
  return (← char p) :: (← many (nextDigit p))

/-- The sign of a number: whether it is negative. -/
def sign : Scan Bool := do
  match ← optional (char fun c => c = '+' || c = '-') with
  | some c => return c = '-'
  | none => return false

/-- The digits before the point: a zero, or digits that do not start with one. -/
def wholeDigits : Scan (List Char) := do
  match ← peek? with
  | some '0' => return [← char Char.isDigit]
  | _ => digitRun Char.isDigit

/-- An exponent, as it stands in a decimal. -/
def exponentPart : Scan (List Char) := do
  let mark ← char fun c => c = 'e' || c = 'E'
  let sign ← optional (char fun c => c = '+' || c = '-')
  return mark :: sign.toList ++ (← digitRun Char.isDigit)

/-- A fractional part, as it stands in a decimal. -/
def fractionPart : Scan (List Char) := do
  return (← char (· = '.')) :: (← digitRun Char.isDigit)

/-- A number with a fraction or an exponent; a positive one may not be too large for a double. -/
def finiteNumber : Scan Value := do
  let isNegative ← sign
  let whole ← wholeDigits
  let fraction ← optional fractionPart
  let exponent ← optional exponentPart
  guard (fraction.isSome || exponent.isSome)
  match Decimal.read? (whole ++ fraction.getD [] ++ exponent.getD []) with
  | none => failure
  | some d =>
    match Double.ofDecimal? d with
    | some x => return .fractional (.finite isNegative x)
    | none => if isNegative then return .fractional (.infinite true) else failure

/-- Infinity, or what is no number. -/
def specialNumber : Scan Value := do
  let isNegative ← sign
  (do word ['i', 'n', 'f']; return .fractional (.infinite isNegative)) <|>
    (do word ['n', 'a', 'n']; return .fractional .notANumber)

/-- An integer of sixty-four bits. -/
def boundedInt (i : Int) : Scan Value := do
  guard (Int64.minValue.toInt ≤ i && i ≤ Int64.maxValue.toInt)
  return .int i

/-- An integer in decimal digits. -/
def decimalInteger : Scan Value := do
  let isNegative ← sign
  let n : Int := Nat.ofDigitChars 10 (← wholeDigits) 0
  boundedInt (if isNegative then -n else n)

/-- An integer in another radix, after its prefix. -/
def radixInteger (mark : Char) (radix : Nat) : Scan Value := do
  word ['0', mark]
  let digits ← digitRun fun c => (hexValue? c).any (· < radix)
  boundedInt ((digits.filterMap hexValue?).foldl (fun n d => radix * n + d) 0 : Nat)

/-- A number, or a date or time. -/
def numeric : Scan Value :=
  (Value.moment <$> Moment.scan) <|> finiteNumber <|> specialNumber <|>
    radixInteger 'x' 16 <|> radixInteger 'o' 8 <|> radixInteger 'b' 2 <|> decimalInteger

/-! ## Values -/

/-- A value that is no container. -/
def scalar : Scan Value :=
  (Value.text <$> quotedValue) <|>
    (do word "true".toList; return .bool true) <|>
    (do word "false".toList; return .bool false) <|> numeric

/-- An array, whose items are given. -/
def array (item : Scan Value) : Scan Value := do
  let _ ← char (· = '[')
  let items ← optional (separated (filler *> item <* filler) (char (· = ',')))
  if items.isSome then
    let _ ← optional (char (· = ','))
  filler
  let _ ← char (· = ']')
  return .array (items.getD [])

/-- An assignment, whose value is given. -/
def assignment (item : Scan Value) : Scan (List String × String × Value) := do
  let (path, last) ← key
  let _ ← char (· = '=')
  let v ← blanks *> item
  return (path, last, v)

/-- A table in braces, on one line. -/
def inlineTable (item : Scan Value) : Scan Value := do
  let _ ← char (· = '{')
  let assignments ← optional (separated (assignment item <* blanks) (char (· = ',')))
  blanks
  let _ ← char (· = '}')
  StateT.lift (inlineTable? (assignments.getD []))

/-- A value with containers that nest at most so deep. -/
def value : Nat → Scan Value
  | 0 => scalar
  | levels + 1 => array (value levels) <|> inlineTable (value levels) <|> scalar

/-- The deepest nesting of arrays and tables in a value. -/
def maxLevels : Nat :=
  79

/-! ## Documents -/

/-- The line of a header. -/
def headerLine : Scan Line :=
  (do
    let (path, last) ← word ['[', '['] *> key <* word [']', ']'] <* lineTail
    return .arrayHeader path last) <|>
  (do
    let (path, last) ← char (· = '[') *> key <* char (· = ']') <* lineTail
    return .header path last)

/-- The line of an assignment. -/
def assignmentLine : Scan Line := do
  let (path, last, v) ← assignment (value maxLevels) <* lineTail
  return .assignment path last v

/-- A line, if it is not blank. -/
def line : Scan (Option Line) :=
  (do blanks; lineFeed; return none) <|>
    (do blanks; comment; lineEnd; return none) <|>
    some <$> (blanks *> (headerLine <|> assignmentLine))

/-- All lines that are not blank, after an optional byte order mark. -/
def lines : Scan (List Line) := do
  let _ ← optional (char (· = '\ufeff'))
  let lines ← many line
  blanks
  return lines.filterMap id

/-- The entries of a document, in ascending order of their keys, if the text is one. -/
def read? (s : String) : Option (List (String × Value)) :=
  (whole? lines s.toList).bind document?

end RouteIndex.Toml
