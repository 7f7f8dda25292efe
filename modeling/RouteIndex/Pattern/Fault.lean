/-
  Which texts can be used as patterns.

  A pattern may not nest too deep, and it has to match whole characters.  Boundaries of words are
  refused too, unless the pattern looks at bytes there: they depend on two neighbouring characters
  of every script.
-/

import RouteIndex.Pattern.Reader

namespace RouteIndex.Pattern

/-- Why a text cannot be used as a pattern. -/
inductive Fault where
  | malformed
  | wordBoundary
  deriving DecidableEq, Repr

/-- The text of a fault. -/
def Fault.message : Fault → String
  | .malformed => "error building NFA"
  | .wordBoundary =>
    "unsupported regex feature for DFAs: cannot build DFAs for regexes with Unicode word " ++
      "boundaries; switch to ASCII word boundaries, or heuristically enable Unicode word " ++
      "boundaries or use a different regex engine"

/-- How many parts of a pattern may be nested. -/
def maxDepth : Nat :=
  250

/-- Why a text cannot be used as a pattern; nothing if it can. -/
def fault? (cs : List Char) : Option Fault :=
  match read? cs with
  | none => some .malformed
  | some p =>
    if maxDepth < p.depth || !p.isWhole then some .malformed
    else if p.hasUnicodeBoundary then some .wordBoundary
    else none

end RouteIndex.Pattern
