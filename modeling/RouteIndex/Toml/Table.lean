/-
  Building TOML tables line by line.

  A document is a list of lines: headers, and assignments to keys that may have dots.  A `Draft`
  takes them in order.  Which later lines may add to a table depends on how the table came about
  (`Origin`): a header may fill in a table that was only implied by another header, and dotted keys
  may add only to tables that dotted keys made.

  When all lines have been taken, the tables that stand for moments become moments, from the outside
  to the inside, and the keys of the others are put in order (`Value.settle?`).
-/

import RouteIndex.Toml.Value

namespace RouteIndex.Toml

/-- How a table came about. -/
inductive Origin where
  /-- By a header of its own, or as the whole document. -/
  | declared
  /-- By the header of a table inside it. -/
  | implied
  /-- By a dotted key. -/
  | dotted
  deriving DecidableEq, Repr

/-- What stands under a key of a table that is being built. -/
inductive Entry where
  | value (v : Value)
  | table (origin : Origin) (entries : List (String × Entry))
  /-- The tables of an array, the first one last. -/
  | tables (last : List (String × Entry)) (before : List (List (String × Entry)))
  deriving Inhabited

/-- A table that is being built: its keys in the order in which they came up. -/
abbrev Entries : Type :=
  List (String × Entry)

namespace Entries

/-- Puts an entry under a key, in the place of an earlier one. -/
def put (key : String) (e : Entry) : Entries → Entries
  | [] => [(key, e)]
  | (k, old) :: rest => if k = key then (key, e) :: rest else (k, old) :: put key e rest

/-- Takes a key out. -/
def remove (key : String) (entries : Entries) : Entries :=
  entries.filter (·.1 ≠ key)

/-- Changes the table at a path, and makes the tables on the way to it.  In an array of tables the
way leads through the last one.  With `isDotted` the way may not lead into a declared table. -/
def update (isDotted : Bool) (change : Origin → Entries → Option Entries) :
    List String → Origin → Entries → Option Entries
  | [], origin, entries => change origin entries
  | key :: path, _, entries =>
    match entries.lookup key with
    | none => do
      let origin := if isDotted then .dotted else .implied
      return entries.put key (.table origin (← update isDotted change path origin []))
    | some (.table origin inner) =>
      if isDotted && origin = .declared then none
      else do
        return entries.put key (.table origin (← update isDotted change path origin inner))
    | some (.tables last before) => do
      return entries.put key (.tables (← update isDotted change path .declared last) before)
    | some (.value _) => none

/-- Gives a value to a key, which may not have one; behind a dotted path, only in a table that dotted
keys made. -/
def assign (path : List String) (key : String) (v : Value) (entries : Entries) : Option Entries :=
  update true
    (fun origin entries =>
      if decide (origin = .dotted) = path.isEmpty then none
      else if (entries.lookup key).isSome then none
      else some (entries ++ [(key, .value v)]))
    path .declared entries

/-- Opens the table that a header declares. -/
def declare (key : String) (entries : Entries) : Option Entries :=
  match entries.lookup key with
  | none => some (entries ++ [(key, .table .declared [])])
  | some (.table .implied inner) =>
    some (entries.remove key ++ [(key, .table .declared inner)])
  | some _ => none

/-- Opens the next table of an array. -/
def declareNext (key : String) (entries : Entries) : Option Entries :=
  match entries.lookup key with
  | none => some (entries ++ [(key, .tables [] [])])
  | some (.tables last before) => some (entries.put key (.tables [] (last :: before)))
  | some _ => none

end Entries

/-! ## Lines -/

/-- A line of a document.  The last part of a dotted key stands apart from the path before it. -/
inductive Line where
  | assignment (path : List String) (key : String) (v : Value)
  | header (path : List String) (key : String)
  | arrayHeader (path : List String) (key : String)

/-- A document that is being built. -/
structure Draft where
  entries : Entries := []
  /-- The path of the table that assignments go to. -/
  current : List String := []

namespace Draft

/-- Takes one line. -/
def add (d : Draft) : Line → Option Draft
  | .assignment path key v => do
    return { d with
      entries := ← d.entries.update false (fun _ inner => inner.assign path key v) d.current .declared }
  | .header path key => do
    return ⟨← d.entries.update false (fun _ inner => inner.declare key) path .declared,
      path ++ [key]⟩
  | .arrayHeader path key => do
    return ⟨← d.entries.update false (fun _ inner => inner.declareNext key) path .declared,
      path ++ [key]⟩

/-- Takes lines in order. -/
def addAll (d : Draft) : List Line → Option Draft
  | [] => some d
  | line :: lines => do (← d.add line).addAll lines

end Draft

/-! ## Finished tables -/

/-- Whether the first key does not come after the second one. -/
def keyLe (a b : String × Value) : Bool :=
  a.1 ≤ b.1

/-- A table with its keys in ascending order. -/
def sortEntries (entries : List (String × Value)) : List (String × Value) :=
  entries.mergeSort keyLe

mutual

/-- What stands under a key, as a value whose tables have their keys in the order of the document. -/
def Entry.toValue : Entry → Value
  | .value v => v
  | .table _ entries => .table (entryValues entries)
  | .tables last before => .array ((tableValues before).reverse ++ [.table (entryValues last)])

/-- The values of the entries of a table. -/
def entryValues : List (String × Entry) → List (String × Value)
  | [] => []
  | (key, e) :: entries => (key, e.toValue) :: entryValues entries

/-- The values of tables. -/
def tableValues : List (List (String × Entry)) → List Value
  | [] => []
  | entries :: tables => .table (entryValues entries) :: tableValues tables

end

/-- The key that a table has as its first one when it stands for a moment. -/
def momentKey : String :=
  "$__toml_private_datetime"

/-- The moment that stands under the key for one. -/
def momentUnder? : Value → Option Value
  | .text s => (Moment.ofText? s).map .moment
  | _ => none

mutual

/-- The value that is meant once the document is complete.  The first key of a table decides whether
it is a moment, and then its other entries do not count, whatever they are. -/
def Value.settle? : Value → Option Value
  | .array items => do return .array (← settleItems? items)
  | .table ((key, v) :: entries) =>
    if key = momentKey then momentUnder? v
    else do return .table (sortEntries ((key, ← v.settle?) :: (← settleEntries? entries)))
  | v => some v

/-- The items of an array that are meant. -/
def settleItems? : List Value → Option (List Value)
  | [] => some []
  | v :: vs => do return (← v.settle?) :: (← settleItems? vs)

/-- The entries of a table that are meant. -/
def settleEntries? : List (String × Value) → Option (List (String × Value))
  | [] => some []
  | (key, v) :: entries => do return (key, ← v.settle?) :: (← settleEntries? entries)

end

/-- The entries of the document that the lines make, in ascending order of their keys. -/
def document? (lines : List Line) : Option (List (String × Value)) := do
  let draft ← Draft.addAll {} lines
  return sortEntries (← settleEntries? (entryValues draft.entries))

/-- The table that the assignments between braces make, with its keys in their order. -/
def inlineTable? (assignments : List (List String × String × Value)) : Option Value := do
  let entries ← assignments.foldlM (fun entries (path, key, v) => Entries.assign path key v entries) []
  return .table (entryValues entries)

end RouteIndex.Toml
