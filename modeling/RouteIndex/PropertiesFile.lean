/-
  Properties files: build properties as a TOML document.

  Tables are only a way to write names: every value that is no table is a property, named by the
  keys on the way to it with dots between them.  A text is taken as it is, any other value as it is
  written in TOML.
-/

import RouteIndex.Properties
import RouteIndex.Toml.Reader

namespace RouteIndex.PropertiesFile

open Toml (Value)

mutual

/-- The values in a value that are no tables, each with the keys on the way to it. -/
def leavesOf (path : List String) : Value → List (List String × Value)
  | .table entries => leaves path entries
  | v => [(path, v)]

/-- The leaves of the entries of a table, in their order. -/
def leaves (path : List String) : List (String × Value) → List (List String × Value)
  | [] => []
  | (key, v) :: entries => leavesOf (path ++ [key]) v ++ leaves path entries

end

/-- One more key behind a name; no dot stands after an empty name. -/
def extendName (name key : String) : String :=
  if name.isEmpty then key else name ++ "." ++ key

/-- The name of the property at a path. -/
def nameOf (path : List String) : String :=
  path.foldl extendName ""

/-- The text of a property. -/
def valueText : Value → String
  | .text s => s
  | .moment m =>
    String.ofList ('{' :: ' ' :: Toml.keyText Toml.momentKey ++ " = ".toList ++
      Toml.quotedText (String.ofList m.text) ++ [' ', '}'])
  | v => String.ofList v.write

/-- The property of a leaf. -/
def property (leaf : List String × Value) : String × String :=
  (nameOf leaf.1, valueText leaf.2)

/-- The properties of the entries of a document. -/
def flatten (entries : List (String × Value)) : Properties :=
  Properties.empty.insertAll ((leaves [] entries).map property)

/-- The properties of a text, if it is a document. -/
def read? (s : String) : Option Properties :=
  (Toml.read? s).map flatten

end RouteIndex.PropertiesFile
