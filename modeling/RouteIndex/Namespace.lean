/-
  Namespaces of generated code: which texts are one, and the one that an assembly gets by default.

  A namespace is one or more identifiers with points between them.  An identifier is ASCII letters,
  digits and underscores and starts with no digit; a reserved word is one only behind an `@`, and
  any other identifier may have the `@` too.
-/

import RouteIndex.Text.Blank

namespace RouteIndex.Namespace

/-- The reserved words of C#. -/
def reservedWords : List String :=
  ["abstract", "as", "base", "bool", "break", "byte", "case", "catch", "char", "checked", "class",
    "const", "continue", "decimal", "default", "delegate", "do", "double", "else", "enum", "event",
    "explicit", "extern", "false", "finally", "fixed", "float", "for", "foreach", "goto", "if",
    "implicit", "in", "int", "interface", "internal", "is", "lock", "long", "namespace", "new",
    "null", "object", "operator", "out", "override", "params", "private", "protected", "public",
    "readonly", "ref", "return", "sbyte", "sealed", "short", "sizeof", "stackalloc", "static",
    "string", "struct", "switch", "this", "throw", "true", "try", "typeof", "uint", "ulong",
    "unchecked", "unsafe", "ushort", "using", "virtual", "void", "volatile", "while"]

/-- Whether a text is a reserved word. -/
def isReserved (cs : List Char) : Bool :=
  reservedWords.any fun word => word.toList = cs

/-- A character that may stand in an identifier. -/
def isIdentifierChar (c : Char) : Bool :=
  c.isAlphanum || c = '_'

/-- Whether a text is made like an identifier, reserved or not. -/
def isIdentifier : List Char → Bool
  | [] => false
  | c :: cs => (c.isAlpha || c = '_') && cs.all isIdentifierChar

/-- Whether a text may stand between the points. -/
def isSegment : List Char → Bool
  | '@' :: cs => isIdentifier cs
  | cs => isIdentifier cs && !isReserved cs

/-- Whether a text is a namespace. -/
def isValid (s : String) : Bool :=
  (Text.pieces '.' s.toList).all isSegment

/-! ## The namespace of an assembly -/

/-- The namespace of an assembly whose name has nothing that could be used. -/
def fallback : String :=
  "GeneratedFunctions"

/-- An identifier in the place of any text: an underscore for every character that may not stand in
one, and one more before a digit at the start. -/
def identifierOf (cs : List Char) : List Char :=
  let cleaned := cs.map fun c => if isIdentifierChar c then c else '_'
  match cleaned with
  | c :: rest => if c.isDigit then '_' :: c :: rest else c :: rest
  | [] => []

/-- A segment in the place of any text. -/
def segmentOf (cs : List Char) : List Char :=
  let identifier := identifierOf (Text.trim cs)
  if isReserved identifier then '@' :: identifier else identifier

/-- The segments that the name of an assembly gives; blank ones are dropped. -/
def segmentsOf (assembly : String) : List (List Char) :=
  ((Text.pieces '.' assembly.toList).filter (!Text.isBlankText ·)).map segmentOf

/-- The namespace of an assembly. -/
def ofAssembly (assembly : String) : String :=
  let segments := segmentsOf assembly
  if segments.isEmpty then fallback else String.ofList (['.'].intercalate segments)

end RouteIndex.Namespace
