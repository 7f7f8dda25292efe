/-
  Reading escapes and brackets, the parts of a pattern that stand for one character.

  Two flags decide how a pattern is read (`Scope`).  In a verbose pattern blanks and comments do not
  count, not even between the digits of an escape.

  `Scope.brackets` keeps the brackets that are open in a list, the innermost one apart, so that it
  goes through the text once.
-/

import RouteIndex.Pattern.Basic
import RouteIndex.Text.Blank
import RouteIndex.Text.Digit
import RouteIndex.Text.Scan

namespace RouteIndex.Pattern

open RouteIndex.Text (Scan)

/-! ## Flags and blanks -/

mutual

/-- A text without the blanks and comments in front. -/
def dropBlanks : List Char → List Char
  | [] => []
  | c :: cs =>
    if c = '#' then dropComment cs else if Text.isBlank c then dropBlanks cs else c :: cs

/-- A text without the rest of a comment, and the blanks and comments that follow it. -/
def dropComment : List Char → List Char
  | [] => []
  | c :: cs => if c = '\n' then dropBlanks cs else dropComment cs

end

/-- The flags that decide how a pattern is read. -/
structure Scope where
  /-- Whether blanks and comments do not count. -/
  isVerbose : Bool := false
  /-- Whether the pattern looks at characters and not at bytes. -/
  isUnicode : Bool := true

namespace Scope

/-- Takes the blanks and comments that do not count. -/
def skip (s : Scope) : Scan Unit :=
  fun cs => some ((), if s.isVerbose then dropBlanks cs else cs)

end Scope

/-! ## Escapes -/

/-- What a character or an escape stands for. -/
inductive Escape where
  | char (code : Nat)
  | byte (code : Nat)
  | oneOf (set : CharSet)
  | anchor
  | wordBoundary

namespace Escape

/-- The code point of a character. -/
def code? : Escape → Option Nat
  | .char code => some code
  | .byte code => some code
  | _ => none

/-- The set that is meant between brackets, where the places in a text have no meaning. -/
def set? : Escape → Option CharSet
  | .char code => some (.char code)
  | .byte code => some (.char code)
  | .oneOf set => some set
  | .anchor => none
  | .wordBoundary => none

/-- The atom that is meant outside of brackets. -/
def atom (isUnicode : Bool) : Escape → Atom
  | .char code => .char code
  | .byte code => .byte code isUnicode
  | .oneOf set => .oneOf set isUnicode
  | .anchor => .anchor
  | .wordBoundary => .wordBoundary isUnicode

/-- The control character that a letter denotes. -/
def control? : Char → Option Nat
  | 'a' => some 7
  | 't' => some 9
  | 'n' => some 10
  | 'v' => some 11
  | 'f' => some 12
  | 'r' => some 13
  | _ => none

/-- The escape of a character that needs nothing after it; ASCII punctuation stands for itself. -/
def ofChar? (c : Char) : Option Escape :=
  if "dsw".toList.contains c then some (.oneOf (.short false))
  else if "DSW".toList.contains c then some (.oneOf (.short true))
  else if "Az".toList.contains c then some .anchor
  else if "bB<>".toList.contains c then some .wordBoundary
  else if c.isAlphanum || 0x80 ≤ c.toNat then (control? c).map .char
  else some (.char c.toNat)

end Escape

namespace Scope

/-- The number of so many hexadecimal digits that follow the digits of another number. -/
def hexDigits (s : Scope) : Nat → Nat → Scan Nat
  | n, 0 => return n
  | n, count + 1 => do
    s.skip
    let c ← Scan.char fun _ => true
    let d ← Text.hexValue? c
    s.hexDigits (16 * n + d) count

/-- The character whose code point has so many hexadecimal digits. -/
def codePoint (s : Scope) (count : Nat) : Scan Nat := do
  let n ← s.hexDigits 0 count
  guard n.isValidChar
  return n

/-- The letter of a category, in upper or lower case. -/
def category (s : Scope) : Scan CharSet := do
  s.skip
  let _ ← Scan.char fun c => "clmnpsz".toList.contains c.toLower
  return .category

/-- What follows a backslash.  Braces cannot be used here. -/
def escape (s : Scope) : Scan Escape := do
  let c ← Scan.char fun _ => true
  match c with
  | 'x' => return .byte (← s.codePoint 2)
  | 'u' => return .char (← s.codePoint 4)
  | 'U' => return .char (← s.codePoint 8)
  | 'p' | 'P' => return .oneOf (← s.category)
  | _ => Escape.ofChar? c

/-! ## Members of brackets -/

/-- A character or an escape between brackets. -/
def member (s : Scope) : Scan Escape := do
  let c ← Scan.char fun _ => true
  if c = '\\' then s.escape else return .char c.toNat

/-- The character that decides whether a hyphen before it makes a range.  A comment hides only its
sign here, and not its text. -/
def afterHyphen? (s : Scope) (cs : List Char) : Option Char :=
  if s.isVerbose then
    match cs.dropWhile Text.isBlank with
    | '#' :: rest => (rest.dropWhile Text.isBlank).head?
    | rest => rest.head?
  else cs.head?

/-- The hyphen of a range; before a closing bracket or another hyphen it is none. -/
def rangeSign (s : Scope) : Scan Unit
  | '-' :: cs =>
    if s.afterHyphen? cs = some ']' || s.afterHyphen? cs = some '-' then none else some ((), cs)
  | _ => none

/-- A range of characters, or a single member. -/
def rangeOrMember (s : Scope) : Scan CharSet := do
  let first ← s.member
  s.skip
  match ← optional s.rangeSign with
  | none => first.set?
  | some _ =>
    s.skip
    let last ← s.member
    let m ← first.code?
    let n ← last.code?
    guard (m ≤ n)
    return .range m n

/-- The names of the classes of ASCII characters. -/
def classNames : List String :=
  ["alnum", "alpha", "ascii", "blank", "cntrl", "digit", "graph", "lower", "print", "punct",
    "space", "upper", "word", "xdigit"]

/-- A class that is given by its name between colons, after its opening bracket. -/
def namedClass : Scan CharSet := do
  Scan.word [':']
  let sign ← optional (Scan.word ['^'])
  let name ← Scan.run (· ≠ ':')
  Scan.word [':', ']']
  guard (classNames.contains (String.ofList name))
  return .named sign.isSome

end Scope

/-! ## Brackets -/

/-- Brackets that are open. -/
structure OpenBrackets where
  isNegated : Bool
  /-- What stands before the last operator. -/
  left : Option CharSet := none
  /-- What stands after it, the last member first. -/
  members : List CharSet := []

namespace OpenBrackets

/-- One more member. -/
def add (b : OpenBrackets) (s : CharSet) : OpenBrackets :=
  { b with members := s :: b.members }

/-- The set so far; operators apply from left to right. -/
def set (b : OpenBrackets) : CharSet :=
  let right := CharSet.ofMembers b.members.reverse
  match b.left with
  | none => right
  | some left => .combined left right

/-- One more operator. -/
def operator (b : OpenBrackets) : OpenBrackets :=
  { b with left := some b.set, members := [] }

/-- The brackets with their closing bracket. -/
def close (b : OpenBrackets) : CharSet :=
  .brackets b.isNegated b.set

end OpenBrackets

namespace Scope

/-- The start of brackets after the opening one: a caret, then any number of hyphens or else a
closing bracket that stands for itself. -/
def opening (s : Scope) : Scan OpenBrackets := do
  s.skip
  let caret ← optional (Scan.word ['^'] *> s.skip)
  let hyphens ← Scan.many (Scan.word ['-'] *> s.skip)
  let members := hyphens.map fun _ => CharSet.char '-'.toNat
  let b : OpenBrackets := { isNegated := caret.isSome, members }
  let closing ← if hyphens.isEmpty then optional (Scan.word [']']) else pure none
  return if closing.isSome then b.add (.char ']'.toNat) else b

/-- The rest of brackets that stand in other ones; at most so many steps are made. -/
def bracketsFrom (s : Scope) : Nat → OpenBrackets → List OpenBrackets → Scan CharSet
  | 0, _, _, _ => none
  | steps + 1, inner, outer, cs => do
    let (_, cs) ← s.skip cs
    match cs with
    | '[' :: cs =>
      match namedClass cs with
      | some (set, cs) => s.bracketsFrom steps (inner.add set) outer cs
      | none =>
        let (next, cs) ← s.opening cs
        s.bracketsFrom steps next (inner :: outer) cs
    | ']' :: cs =>
      match outer with
      | [] => return (inner.close, cs)
      | next :: outer => s.bracketsFrom steps (next.add inner.close) outer cs
    | '&' :: '&' :: cs => s.bracketsFrom steps inner.operator outer cs
    | '-' :: '-' :: cs => s.bracketsFrom steps inner.operator outer cs
    | '~' :: '~' :: cs => s.bracketsFrom steps inner.operator outer cs
    | cs =>
      let (set, cs) ← s.rangeOrMember cs
      s.bracketsFrom steps (inner.add set) outer cs

/-- Brackets after the opening one.  Each step takes at least one character. -/
def brackets (s : Scope) : Scan CharSet := do
  let b ← s.opening
  fun cs => s.bracketsFrom (cs.length + 1) b [] cs

end Scope

end RouteIndex.Pattern
