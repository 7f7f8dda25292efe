/-
  Scans: readers of the front of a text, which give a value and the rest of the text.

  A scan is a state computation over the characters that are left, so scans are put together with
  `do`, `p <|> q` tries `q` from the same place, and `optional p` gives nothing where `p` fails.
  `many` repeats a scan as long as it succeeds.
-/

namespace RouteIndex.Text

/-- A reader of the front of a text. -/
abbrev Scan (α : Type) : Type :=
  StateT (List Char) Option α

namespace Scan

/-- The next character, which stays in the text. -/
def peek? : Scan (Option Char) :=
  fun cs => some (cs.head?, cs)

/-- A character that satisfies the condition. -/
def char (p : Char → Bool) : Scan Char
  | c :: cs => if p c then some (c, cs) else none
  | [] => none

/-- The given text. -/
def word : List Char → Scan Unit
  | [], cs => some ((), cs)
  | c :: w, d :: cs => if c = d then word w cs else none
  | _ :: _, [] => none

/-- The characters before the first one that does not satisfy the condition. -/
def run (p : Char → Bool) : Scan (List Char) :=
  fun cs => some (cs.takeWhile p, cs.dropWhile p)

/-- `run`, but at least one character. -/
def run1 (p : Char → Bool) : Scan (List Char) := do
  return (← char p) :: (← run p)

/-- The end of the text. -/
def atEnd : Scan Unit
  | [] => some ((), [])
  | _ :: _ => none

/-- Repeats a scan until it fails, but at most so many times. -/
def manyUpTo {α : Type} (p : Scan α) : Nat → Scan (List α)
  | 0, cs => some ([], cs)
  | n + 1, cs =>
    match p cs with
    | some (a, rest) => (manyUpTo p n rest).map fun (as, rest) => (a :: as, rest)
    | none => some ([], cs)

/-- Repeats a scan until it fails.  The scan takes at least one character each time, so there are no
more repetitions than characters. -/
def many {α : Type} (p : Scan α) : Scan (List α) :=
  fun cs => manyUpTo p cs.length cs

/-- One or more times `p`, with `sep` between them. -/
def separated {α β : Type} (p : Scan α) (sep : Scan β) : Scan (List α) := do
  let first ← p
  let others ← many (sep *> p)
  return first :: others

/-- What `p` gives for the whole text. -/
def whole? {α : Type} (p : Scan α) (cs : List Char) : Option α :=
  match p cs with
  | some (a, []) => some a
  | _ => none

end Scan

end RouteIndex.Text
