/-
  Build properties: what a build system hands over as names with values.

  `Properties` keeps one value for each name, in ascending order of the names; `get?_insert` and
  `get?_merge` say what a later value does to an earlier one.  Pairs `KEY=VALUE` are all read before
  any of them counts.
-/

import RouteIndex.Text.Blank

namespace RouteIndex

/-- Values by name, in ascending order of the names. -/
structure Properties where
  entries : List (String × String) := []
  deriving DecidableEq, Repr, Inhabited

namespace Properties

/-- No properties. -/
def empty : Properties :=
  {}

/-- Puts a value at its place, instead of an earlier one of the same name. -/
def insertEntry (key value : String) : List (String × String) → List (String × String)
  | [] => [(key, value)]
  | (k, v) :: rest =>
    if key = k then (key, value) :: rest
    else if key < k then (key, value) :: (k, v) :: rest
    else (k, v) :: insertEntry key value rest

/-- Sets the value of a name. -/
def insert (p : Properties) (key value : String) : Properties :=
  ⟨insertEntry key value p.entries⟩

/-- The value of a name. -/
def get? (p : Properties) (key : String) : Option String :=
  p.entries.lookup key

/-- The number of names that have a value. -/
def size (p : Properties) : Nat :=
  p.entries.length

/-- Whether no name has a value. -/
def isEmpty (p : Properties) : Bool :=
  p.entries.isEmpty

/-- Sets all values in order, so that the last one of a name stays. -/
def insertAll (p : Properties) (entries : List (String × String)) : Properties :=
  entries.foldl (fun p (key, value) => p.insert key value) p

/-- The values of both, those of the second first. -/
def merge (p q : Properties) : Properties :=
  p.insertAll q.entries

theorem lookup_insertEntry (key value k : String) (entries : List (String × String)) :
    (insertEntry key value entries).lookup k =
      if k = key then some value else entries.lookup k := by
  have beq (a b : String) : (a == b) = decide (a = b) := rfl
  induction entries with
  | nil => by_cases h : k = key <;> simp [insertEntry, List.lookup_cons, beq, h]
  | cons e rest ih =>
    obtain ⟨k', v'⟩ := e
    by_cases hkey : key = k'
    · subst hkey
      by_cases h : k = key <;> simp [insertEntry, List.lookup_cons, beq, h]
    · by_cases hlt : key < k'
      · by_cases h : k = key <;> simp [insertEntry, List.lookup_cons, beq, hkey, hlt, h]
      · have hne : ¬ k' = key := fun h => hkey h.symm
        simp only [insertEntry, if_neg hkey, if_neg hlt, List.lookup_cons, beq, ih]
        by_cases h : k = k' <;> simp [h, hne]

/-- A new value is seen under its own name only. -/
theorem get?_insert (p : Properties) (key value k : String) :
    (p.insert key value).get? k = if k = key then some value else p.get? k :=
  lookup_insertEntry key value k p.entries

/-! ## Truth values -/

/-- Whether a value means yes: `true` in upper or lower case, blanks at its ends aside. -/
def meansYes (value : String) : Bool :=
  (Text.trim value.toList).map Char.toLower = "true".toList

/-- Whether a name has a value that means yes. -/
def isYes (p : Properties) (key : String) : Bool :=
  match p.get? key with
  | some value => meansYes value
  | none => false

/-! ## Pairs -/

/-- The name and the value of `KEY=VALUE`, blanks at their ends aside; the name may not be blank. -/
def pair? (s : String) : Option (String × String) :=
  match Text.cut? '=' s.toList with
  | some (key, value) =>
    let key := Text.trim key
    if key.isEmpty then none else some (String.ofList key, String.ofList (Text.trim value))
  | none => none

/-- Why a list of pairs gives no properties. -/
inductive Error where
  | notAPair (given : String)
  deriving DecidableEq, Repr

/-- The text of an error. -/
def Error.message : Error → String
  | .notAPair given => "Invalid build property '" ++ given ++ "'. Expected KEY=VALUE"

/-- The entries of pairs, or the first one that is no pair. -/
def entriesOfPairs : List String → Except Error (List (String × String))
  | [] => .ok []
  | s :: ss =>
    match pair? s with
    | some entry =>
      match entriesOfPairs ss with
      | .ok entries => .ok (entry :: entries)
      | .error e => .error e
    | none => .error (.notAPair s)

/-- The properties of pairs, or the first one that is no pair. -/
def ofPairs (pairs : List String) : Except Error Properties :=
  match entriesOfPairs pairs with
  | .ok entries => .ok (empty.insertAll entries)
  | .error e => .error e

end Properties

end RouteIndex
