/-
  Reading patterns.

  A pattern is read from left to right, part by part (`Progress.step`).  The groups that are open
  are kept in a list, the innermost one apart.  A change of flags holds up to the end of the group
  that it stands in, also in the alternatives that follow.

  The braces of counted repetitions are not known here: an opening brace is a fault, and a closing
  one stands for itself.
-/

import RouteIndex.Pattern.Brackets
import RouteIndex.Text.Alphanumeric

namespace RouteIndex.Pattern

open RouteIndex.Text (Scan)

/-! ## Flags -/

/-- Whether flags switch one of them on or off. -/
def setting? (flag : Char) (flags : List Char) : Option Bool :=
  if flags.contains flag then some !(flags.takeWhile (· ≠ flag)).contains '-' else none

/-- A scope in which flags have been set. -/
def Scope.set (s : Scope) (flags : List Char) : Scope :=
  { isVerbose := (setting? 'x' flags).getD s.isVerbose
    isUnicode := (setting? 'u' flags).getD s.isUnicode }

/-- Flags, each of them once; those after a hyphen are switched off. -/
def areFlags (cs : List Char) : Bool :=
  cs.all "imsUuxR-".toList.contains && cs.eraseDups = cs && cs.getLast? ≠ some '-'

/-- A text that can be the name of a group. -/
def isName : List Char → Bool
  | [] => false
  | c :: cs =>
    (c = '_' || Text.isAlphabetic c) &&
      cs.all fun c => "_.[]".toList.contains c || Text.isAlphanumeric c

/-! ## Groups -/

/-- A group that is open, or the pattern as a whole. -/
structure OpenGroup where
  /-- The alternatives that are finished, the last one first. -/
  finished : List Pattern := []
  /-- The parts of the current alternative, the last one first. -/
  items : List Pattern := []
  /-- The flags outside of the group. -/
  outside : Scope := {}

namespace OpenGroup

/-- One more part. -/
def add (g : OpenGroup) (p : Pattern) : OpenGroup :=
  { g with items := p :: g.items }

/-- The current alternative. -/
def current (g : OpenGroup) : Pattern :=
  .ofItems g.items.reverse

/-- One more alternative. -/
def split (g : OpenGroup) : OpenGroup :=
  { g with finished := g.current :: g.finished, items := [] }

/-- The pattern in a group. -/
def close (g : OpenGroup) : Pattern :=
  if g.finished.isEmpty then g.current else .alternatives (g.finished.reverse ++ [g.current])

/-- The group with its last part repeated; a change of flags cannot be repeated. -/
def repeatLast? (g : OpenGroup) : Option OpenGroup :=
  match g.items with
  | [] => none
  | .atom .flags :: _ => none
  | p :: items => some { g with items := .repeated p :: items }

end OpenGroup

/-! ## Patterns -/

/-- What is remembered while a pattern is read. -/
structure Progress where
  scope : Scope := {}
  inner : OpenGroup := {}
  outer : List OpenGroup := []
  /-- The names of groups so far. -/
  names : List (List Char) := []

namespace Progress

/-- One more part. -/
def add (p : Progress) (q : Pattern) : Progress :=
  { p with inner := p.inner.add q }

/-- One more group, in which the flags are those of a scope. -/
def enter (p : Progress) (scope : Scope) : Progress :=
  { p with scope, inner := { outside := p.scope }, outer := p.inner :: p.outer }

/-- The end of a group. -/
def leave? (p : Progress) : Option Progress :=
  match p.outer with
  | [] => none
  | next :: outer =>
    some { p with scope := p.inner.outside, inner := next.add (.group p.inner.close), outer }

/-- The name of a group up to its closing angle; no two groups have the same name. -/
def named (p : Progress) : Scan Progress := do
  let name ← Scan.run (· ≠ '>')
  Scan.word ['>']
  guard (isName name && !p.names.contains name)
  return { p.enter p.scope with names := name :: p.names }

/-- Flags for a group, up to a colon, or for the rest of the current one, up to a parenthesis. -/
def flags (p : Progress) : Scan Progress := do
  let flags ← Scan.run fun c => c ≠ ':' && c ≠ ')'
  let last ← Scan.char fun _ => true
  guard (areFlags flags)
  if last = ':' then return p.enter (p.scope.set flags)
  else
    guard !flags.isEmpty
    return { p.add (.atom .flags) with scope := p.scope.set flags }

/-- The start of a group after its opening parenthesis. -/
def group (p : Progress) : Scan Progress := do
  p.scope.skip
  fun
    | '?' :: 'P' :: '<' :: cs => p.named cs
    | '?' :: '<' :: cs => p.named cs
    | '?' :: cs => p.flags cs
    | cs => some (p.enter p.scope, cs)

/-- A sign of repetition; a question mark right after it says that few repetitions are wanted. -/
def repetition (p : Progress) : Scan Progress := do
  let _ ← optional (Scan.word ['?'])
  let inner ← p.inner.repeatLast?
  return { p with inner }

/-- One part of a pattern. -/
def step (p : Progress) : Scan Progress := do
  let c ← Scan.char fun _ => true
  match c with
  | '(' => p.group
  | ')' => p.leave?
  | '|' => return { p with inner := p.inner.split }
  | '[' => return p.add (.atom (.oneOf (← p.scope.brackets) p.scope.isUnicode))
  | '*' | '+' | '?' => p.repetition
  | '{' => failure
  | '\\' => return p.add (.atom ((← p.scope.escape).atom p.scope.isUnicode))
  | '.' => return p.add (.atom (.dot p.scope.isUnicode))
  | '^' | '$' => return p.add (.atom .anchor)
  | _ => return p.add (.atom (.char c.toNat))

/-- The pattern that a text completes; at most so many steps are made. -/
def finish? : Nat → Progress → List Char → Option Pattern
  | 0, _, _ => none
  | steps + 1, p, cs => do
    let (_, cs) ← p.scope.skip cs
    if cs.isEmpty then
      guard p.outer.isEmpty
      return p.inner.close
    else
      let (next, rest) ← p.step cs
      next.finish? steps rest

end Progress

/-- The pattern of a text.  Each step takes at least one character. -/
def read? (cs : List Char) : Option Pattern :=
  Progress.finish? (cs.length + 1) {} cs

end RouteIndex.Pattern
