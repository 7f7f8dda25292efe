/-
  String literals of C#, the language of the generated unit.

  A `regular` literal escapes the backslash, the quote and three control characters; a `verbatim`
  literal starts with `@` and writes a quote twice.
-/

namespace RouteIndex.Provider

/-- How one character stands in a regular literal. -/
def escapeChar (c : Char) : List Char :=
  match c with
  | '\\' => ['\\', '\\']
  | '"' => ['\\', '"']
  | '\n' => ['\\', 'n']
  | '\r' => ['\\', 'r']
  | '\t' => ['\\', 't']
  | c => [c]

/-- The regular literal of a text. -/
def regularLiteral (s : String) : String :=
  String.ofList ('"' :: s.toList.flatMap escapeChar ++ ['"'])

/-- How one character stands in a verbatim literal. -/
def doubleQuote (c : Char) : List Char :=
  if c = '"' then ['"', '"'] else [c]

/-- What stands between the quotes of a verbatim literal. -/
def verbatimBody (s : String) : String :=
  String.ofList (s.toList.flatMap doubleQuote)

/-- The verbatim literal of a text. -/
def verbatimLiteral (s : String) : String :=
  "@\"" ++ verbatimBody s ++ "\""

end RouteIndex.Provider
