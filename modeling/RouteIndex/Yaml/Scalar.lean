/-
  YAML scalars: in which style a text is written, so that a reader gets the same text back.

  A text with a line feed becomes a block (`literal`).  Any other text is `plain`, unless a reader
  would take the plain form for another value (`looksLikeOther`) or for punctuation
  (`plainAllowed`); then it is quoted, in double quotes only if single ones cannot hold it.
-/

import RouteIndex.Decimal.Double

namespace RouteIndex.Yaml

/-- How a scalar is written. -/
inductive Style where
  | plain
  | singleQuoted
  | doubleQuoted
  | literal
  deriving DecidableEq, Repr

/-! ## Characters -/

/-- A character that ends a line. -/
def isBreak (c : Char) : Bool :=
  c = '\n' || c = '\r' || c = '\x85' || c = '\u2028' || c = '\u2029'

/-- A character that may stand in a document as itself. -/
def isPrintable (c : Char) : Bool :=
  let n := c.toNat
  n = 10 || (0x20 ≤ n && n ≤ 0x7E) ||
    (0xA0 ≤ n && n ≠ 0xFEFF && n ≠ 0xFFFE && n ≠ 0xFFFF)

/-- A character that has a meaning at the start of a plain scalar. -/
def isIndicator (c : Char) : Bool :=
  "#,[]{}&*!|>'\"%@`".toList.contains c

/-- Whether two neighbours satisfy the two conditions. -/
def hasNeighbours (p q : Char → Bool) : List Char → Bool
  | c :: d :: cs => (p c && q d) || hasNeighbours p q (d :: cs)
  | _ => false

/-- A plain space. -/
def isSpace (c : Char) : Bool :=
  c = ' '

/-! ## Texts that look like other values -/

/-- The value of a run of digits in a radix. -/
def radixValue? (radix : Nat) (cs : List Char) : Option Nat := do
  guard !cs.isEmpty
  let digits ← cs.mapM Text.hexValue?
  guard (digits.all (· < radix))
  return digits.foldl (fun n d => radix * n + d) 0

/-- The number of `0x`, `0o` or `0b` and its digits. -/
def prefixedValue? : List Char → Option Nat
  | '0' :: 'x' :: cs => radixValue? 16 cs
  | '0' :: 'o' :: cs => radixValue? 8 cs
  | '0' :: 'b' :: cs => radixValue? 2 cs
  | _ => none

/-- A number in another radix that fits in 128 bits. -/
def isPrefixedInteger (cs : List Char) : Bool :=
  let bound := if cs.head? = some '-' then Nat.pow 2 127 + 1 else Nat.pow 2 128
  (prefixedValue? (Text.unsigned cs)).any (· < bound)

/-- A decimal number that is not too large, with or without a sign. -/
def isDecimalNumber (cs : List Char) : Bool :=
  (Decimal.read? (Text.unsigned cs)).any Decimal.isFinite

/-- More than one digit, the first of them a zero. -/
def isZeroLed (cs : List Char) : Bool :=
  match Text.unsigned cs with
  | '0' :: d :: ds => (d :: ds).all Char.isDigit
  | _ => false

/-- The spellings of nothing, of truth values, of infinity and of what is no number. -/
def words : List String :=
  ["", "null", "Null", "NULL", "~", "true", "True", "TRUE", "false", "False", "FALSE",
    ".inf", ".Inf", ".INF", "+.inf", "+.Inf", "+.INF", "-.inf", "-.Inf", "-.INF",
    ".nan", ".NaN", ".NAN"]

/-- Whether a plain scalar would be taken for another value than a text. -/
def looksLikeOther (cs : List Char) : Bool :=
  words.any (·.toList = cs) || isPrefixedInteger cs || isDecimalNumber cs || isZeroLed cs

/-! ## Styles that can hold a text -/

/-- Whether the text begins or ends with a character of a class. -/
def hasEnd (p : Char → Bool) (cs : List Char) : Bool :=
  cs.head?.any p || cs.getLast?.any p

/-- Whether the start of a text would be taken for a mark of the document. -/
def startsLikeMark (cs : List Char) : Bool :=
  "---".toList.isPrefixOf cs || "...".toList.isPrefixOf cs ||
    match cs with
    | [] => false
    | c :: rest => isIndicator c || ((c = '?' || c = '-') && rest.head?.all isSpace)

/-- Whether a reader of the plain form gets the whole text. -/
def plainAllowed (cs : List Char) : Bool :=
  !startsLikeMark cs &&
    !hasNeighbours (· = ':') isSpace cs && cs.getLast? ≠ some ':' &&
    !hasNeighbours isSpace (· = '#') cs &&
    !hasEnd isSpace cs && !cs.any isBreak && cs.all isPrintable

/-- Whether single quotes can hold a text. -/
def singleAllowed (cs : List Char) : Bool :=
  !hasNeighbours isBreak isSpace cs && !hasNeighbours isSpace isBreak cs && cs.all isPrintable

/-- Whether a block can hold a text. -/
def literalAllowed (cs : List Char) : Bool :=
  !cs.getLast?.any isSpace && !hasNeighbours isSpace isBreak cs && cs.all isPrintable

/-- The style of a text. -/
def styleOf (cs : List Char) : Style :=
  if cs.contains '\n' then
    if literalAllowed cs then .literal else .doubleQuoted
  else if plainAllowed cs && !looksLikeOther cs then .plain
  else if singleAllowed cs then .singleQuoted
  else .doubleQuoted

/-- The style of a key, which has to stay on its line. -/
def keyStyleOf (cs : List Char) : Style :=
  if cs.any isBreak then .doubleQuoted else styleOf cs

/-! ## Writing -/

/-- The indentation of a line. -/
def indentation (width : Nat) : List Char :=
  List.replicate width ' '

/-- The text with the indentation before each character that begins a line. -/
def indentLines (width : Nat) (escape : Char → List Char) : Bool → List Char → List Char
  | _, [] => []
  | afterBreak, c :: cs =>
    if isBreak c then c :: indentLines width escape true cs
    else (if afterBreak then indentation width else []) ++ escape c ++
      indentLines width escape false cs

/-- The text between single quotes; the closing one is indented where it begins a line. -/
def singleQuote (width : Nat) (cs : List Char) : List Char :=
  '\'' :: indentLines width (fun c => if c = '\'' then ['\'', '\''] else [c]) false cs ++
    (if cs.getLast?.any isBreak then indentation width else []) ++ ['\'']

/-- A code point in so many hexadecimal digits of upper case. -/
def codePoint (width : Nat) (c : Char) : List Char :=
  (Text.hexDigits width c.toNat).map Char.toUpper

/-- How one character stands between double quotes. -/
def doubleQuoteChar (c : Char) : List Char :=
  match c with
  | '\x00' => ['\\', '0']
  | '\x07' => ['\\', 'a']
  | '\x08' => ['\\', 'b']
  | '\t' => ['\\', 't']
  | '\n' => ['\\', 'n']
  | '\x0b' => ['\\', 'v']
  | '\x0c' => ['\\', 'f']
  | '\r' => ['\\', 'r']
  | '\x1b' => ['\\', 'e']
  | '"' => ['\\', '"']
  | '\\' => ['\\', '\\']
  | '\x85' => ['\\', 'N']
  | '\u2028' => ['\\', 'L']
  | '\u2029' => ['\\', 'P']
  | c =>
    if isPrintable c then [c]
    else if c.toNat ≤ 0xFF then '\\' :: 'x' :: codePoint 2 c
    else if c.toNat ≤ 0xFFFF then '\\' :: 'u' :: codePoint 4 c
    else '\\' :: 'U' :: codePoint 8 c

/-- The text between double quotes. -/
def doubleQuote (cs : List Char) : List Char :=
  '"' :: cs.flatMap doubleQuoteChar ++ ['"']

/-- The mark of a block: its indentation, where the text itself begins with blanks, and what becomes
of the breaks at the end. -/
def blockHeader (cs : List Char) : List Char :=
  let hint := if cs.head?.any fun c => isSpace c || isBreak c then ['2'] else []
  let chomp := match cs.reverse with
    | [] => ['-']
    | last :: before =>
      if !isBreak last then ['-'] else if before.head?.all isBreak then ['+'] else []
  '|' :: hint ++ chomp

/-- A scalar in its style; its further lines are indented by `width`. -/
def scalar (width : Nat) (style : Style) (cs : List Char) : List Char :=
  match style with
  | .plain => cs
  | .singleQuoted => singleQuote width cs
  | .doubleQuoted => doubleQuote cs
  | .literal => blockHeader cs ++ '\n' :: indentLines width (fun c => [c]) true cs

end RouteIndex.Yaml
