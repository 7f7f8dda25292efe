/-
  A guard before reading: how many objects and arrays would a text open at once?

  `nestsDeeper` counts opening and closing brackets outside string literals, and knows nothing else
  of JSON: on malformed text it must only never say less than what a reader would hold open.  A
  surplus closing bracket leaves the count at zero.
-/

namespace RouteIndex.Json

/-- What is remembered while counting brackets. -/
structure Nesting where
  depth : Nat := 0
  inString : Bool := false
  /-- Whether the last character was a backslash that escapes the next one. -/
  escaped : Bool := false

/-- One character. -/
def Nesting.step (n : Nesting) (c : Char) : Nesting :=
  if n.inString then
    if n.escaped then { n with escaped := false }
    else if c = '\\' then { n with escaped := true }
    else if c = '"' then { n with inString := false }
    else n
  else if c = '"' then { n with inString := true }
  else if c = '{' || c = '[' then { n with depth := n.depth + 1 }
  else if c = '}' || c = ']' then { n with depth := n.depth - 1 }
  else n

/-- Whether the count goes above `max` somewhere in the rest of the text. -/
def Nesting.exceeds (max : Nat) (n : Nesting) : List Char → Bool
  | [] => false
  | c :: cs =>
    let n := n.step c
    max < n.depth || n.exceeds max cs

/-- Whether the text opens more than `max` objects and arrays at once. -/
def nestsDeeper (max : Nat) (s : String) : Bool :=
  Nesting.exceeds max {} s.toList

end RouteIndex.Json
