/-
  Patterns: regular expressions.

  Only what decides whether a text can be used as a pattern is kept of it: how its parts are nested,
  and which of them look at characters or at bytes.  What a pattern matches plays no role here.

  `Pattern.depth` counts nested parts.  `Pattern.isWhole` says that no match begins or ends inside
  of a character: without the flag for Unicode a pattern looks at bytes, and a byte above 0x7F is
  only a part of a character.
-/

namespace RouteIndex

namespace Pattern

/-! ## Sets of characters -/

/-- A set of characters, as it is written between brackets or by an escape. -/
inductive CharSet where
  | empty
  | char (code : Nat)
  | range (first last : Nat)
  /-- A class of ASCII characters that has a name, such as the letters. -/
  | named (isNegated : Bool)
  /-- The digits, the blanks, or the characters of words. -/
  | short (isNegated : Bool)
  /-- A category of Unicode characters. -/
  | category
  | brackets (isNegated : Bool) (set : CharSet)
  | union (sets : List CharSet)
  /-- What an operator makes of two sets: their intersection or one of their differences. -/
  | combined (left right : CharSet)

namespace CharSet

/-- The set that some members between brackets make. -/
def ofMembers : List CharSet → CharSet
  | [] => .empty
  | [s] => s
  | sets => .union sets

mutual

/-- How many brackets, unions and operators are nested. -/
def depth : CharSet → Nat
  | .brackets _ set => set.depth + 1
  | .union sets => depths sets + 1
  | .combined left right => max left.depth right.depth + 1
  | _ => 0

/-- The greatest depth of some sets. -/
def depths : List CharSet → Nat
  | [] => 0
  | s :: sets => max s.depth (depths sets)

end

mutual

/-- Whether a set is written without anything that goes beyond ASCII when it is read as a set of
bytes. -/
def isAscii : CharSet → Bool
  | .empty => true
  | .char code => code < 0x80
  | .range _ last => last < 0x80
  | .named isNegated => !isNegated
  | .short isNegated => !isNegated
  | .category => false
  | .brackets isNegated set => !isNegated && set.isAscii
  | .union sets => areAscii sets
  | .combined left right => left.isAscii && right.isAscii

/-- Whether each of some sets is one of ASCII characters. -/
def areAscii : List CharSet → Bool
  | [] => true
  | s :: sets => s.isAscii && areAscii sets

end

end CharSet

/-! ## Atoms -/

/-- A part of a pattern that has no parts.  The flag `isUnicode` says that it looks at characters
and not at bytes. -/
inductive Atom where
  /-- A change of flags. -/
  | flags
  /-- An end of a line or of the text. -/
  | anchor
  | wordBoundary (isUnicode : Bool)
  | char (code : Nat)
  /-- A character that is written as a byte. -/
  | byte (code : Nat) (isUnicode : Bool)
  | dot (isUnicode : Bool)
  | oneOf (set : CharSet) (isUnicode : Bool)

namespace Atom

/-- How many parts of a set of characters are nested. -/
def depth : Atom → Nat
  | .oneOf set _ => set.depth
  | _ => 0

/-- Whether an atom matches whole characters only. -/
def isWhole : Atom → Bool
  | .flags | .anchor | .wordBoundary _ | .char _ => true
  | .byte code isUnicode => isUnicode || code < 0x80
  | .dot isUnicode => isUnicode
  | .oneOf set isUnicode => isUnicode || set.isAscii

/-- Whether an atom is a boundary of words of every script. -/
def isUnicodeBoundary : Atom → Bool
  | .wordBoundary isUnicode => isUnicode
  | _ => false

end Atom

end Pattern

/-! ## Patterns -/

/-- A regular expression. -/
inductive Pattern where
  | empty
  | atom (a : Pattern.Atom)
  | repeated (p : Pattern)
  | group (p : Pattern)
  | alternatives (ps : List Pattern)
  | sequence (ps : List Pattern)

namespace Pattern

/-- The pattern of parts one after the other. -/
def ofItems : List Pattern → Pattern
  | [] => .empty
  | [p] => p
  | ps => .sequence ps

mutual

/-- The parts of a pattern that have no parts. -/
def atoms : Pattern → List Atom
  | .empty => []
  | .atom a => [a]
  | .repeated p => p.atoms
  | .group p => p.atoms
  | .alternatives ps => atomsOf ps
  | .sequence ps => atomsOf ps

/-- The atoms of some patterns. -/
def atomsOf : List Pattern → List Atom
  | [] => []
  | p :: ps => p.atoms ++ atomsOf ps

end

mutual

/-- How many parts of a pattern are nested. -/
def depth : Pattern → Nat
  | .empty => 0
  | .atom a => a.depth
  | .repeated p => p.depth + 1
  | .group p => p.depth + 1
  | .alternatives ps => depthOf ps + 1
  | .sequence ps => depthOf ps + 1

/-- The greatest depth of some patterns. -/
def depthOf : List Pattern → Nat
  | [] => 0
  | p :: ps => max p.depth (depthOf ps)

end

/-- Whether a pattern matches whole characters only. -/
def isWhole (p : Pattern) : Bool :=
  p.atoms.all Atom.isWhole

/-- Whether a pattern looks for boundaries of words of every script. -/
def hasUnicodeBoundary (p : Pattern) : Bool :=
  p.atoms.any Atom.isUnicodeBoundary

end Pattern

end RouteIndex
