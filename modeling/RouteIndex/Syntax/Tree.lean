/-
  Syntax trees: one lowered source file, with the version of its format and perhaps a path, and its
  JSON form.

  `Tree.ofText` refuses a text that nests too deep before it reads it, then a text that is no tree,
  then a tree of another version.  Every level of nodes costs two levels of JSON, and the tree one.
-/

import RouteIndex.Json.Nesting
import RouteIndex.Json.Printer
import RouteIndex.Json.Reader
import RouteIndex.Syntax.Node

namespace RouteIndex.Syntax

/-! ## Nodes as JSON -/

namespace Node

mutual

/-- The JSON form of a node; a missing text and an empty list of children are left out. -/
def toJson : Node → Json
  | ⟨kind, text, children⟩ =>
    .object <|
      [("kind", .text kind.name)] ++
      (match text with
        | some s => [("text", .text s)]
        | none => []) ++
      (if children.isEmpty then [] else [("children", .arr (toJsons children))])

/-- The JSON form of each node. -/
def toJsons : List Node → List Json
  | [] => []
  | n :: ns => n.toJson :: toJsons ns

end

/-- What has been read of a node. -/
structure Draft where
  kind : Option Kind := none
  text : Option (Option String) := none
  children : Option (List Node) := none

/-- The node, once it has a kind. -/
def Draft.node? (d : Draft) : Option Node :=
  d.kind.map fun kind => ⟨kind, d.text.getD none, d.children.getD []⟩

/-- Reads a kind. -/
def kind? (j : Json) : Option Kind :=
  j.variant?.bind Kind.ofName?

/-- Reads a text or `null`. -/
def text? (j : Json) : Option (Option String) :=
  Json.optional Json.text? (some j)

mutual

/-- Reads a node, given by its fields in any order or as the array of its fields. -/
def ofJson? : Json → Option Node
  | .obj fields => (draft? fields).bind Draft.node?
  | .arr [k] => do return ⟨← kind? k, none, []⟩
  | .arr [k, t] => do return ⟨← kind? k, ← text? t, []⟩
  | .arr [k, t, .arr items] => do return ⟨← kind? k, ← text? t, ← ofJsons? items⟩
  | _ => none

/-- Reads every node of a list. -/
def ofJsons? : List Json → Option (List Node)
  | [] => some []
  | j :: js => do return (← ofJson? j) :: (← ofJsons? js)

/-- Reads the fields of a node; none of them may be given twice. -/
def draft? : List (Option String × Json) → Option Draft
  | [] => some {}
  | f :: fs => (draft? fs).bind (addField? f)

/-- Adds one field to what has been read. -/
def addField? : Option String × Json → Draft → Option Draft
  | (some name, v), d =>
    if name = "kind" then
      if d.kind.isSome then none else (kind? v).map fun kind => { d with kind := some kind }
    else if name = "text" then
      if d.text.isSome then none else (text? v).map fun text => { d with text := some text }
    else if name = "children" then
      if d.children.isSome then none
      else match v with
        | .arr items => (ofJsons? items).map fun children => { d with children := some children }
        | _ => none
    else some d
  | (none, _), _ => none

end

/-- The JSON text of a node. -/
def compactText (n : Node) : String :=
  n.toJson.compact

end Node

/-! ## Trees -/

/-- One source file. -/
structure Tree where
  version : UInt32
  path : Option String
  root : Node
  deriving DecidableEq, Inhabited

namespace Tree

/-- The version of the format that is understood. -/
def formatVersion : UInt32 :=
  1

/-- The deepest nesting of JSON that is accepted. -/
def maxNesting : Nat :=
  512

/-- Why a text is no tree that can be used. -/
inductive Error where
  | tooDeep
  | notATree
  | unsupportedVersion (found : UInt32)
  deriving DecidableEq, Repr

/-- The text of an error. -/
def Error.message : Error → String
  | .tooDeep =>
    "Syntax tree nests deeper than " ++ String.ofList (Text.digitsOf maxNesting) ++ " JSON levels"
  | .notATree => "Failed to parse syntax tree: not a syntax tree in JSON form"
  | .unsupportedVersion found =>
    "Unsupported syntax tree version " ++ String.ofList (Text.digitsOf found.toNat) ++
      " (expected " ++ String.ofList (Text.digitsOf formatVersion.toNat) ++ ")"

/-- A tree of the current version without a path. -/
def ofRoot (root : Node) : Tree :=
  ⟨formatVersion, none, root⟩

/-- The name of the tree in log events. -/
def label (t : Tree) : String :=
  t.path.getD "<memory>"

/-- The JSON form; a missing path is left out. -/
def toJson (t : Tree) : Json :=
  .object <|
    [("version", .nat t.version.toNat)] ++
    (match t.path with
      | some path => [("path", .text path)]
      | none => []) ++
    [("root", t.root.toJson)]

/-- Reads the JSON form. -/
def ofJson? (j : Json) : Option Tree := do
  match ← j.fields? ["version", "path", "root"] with
  | [version, path, root] =>
    return {
      version := UInt32.ofNat (← Json.required (Json.natBelow? 32) version)
      path := ← Json.optional Json.text? path
      root := ← Json.required Node.ofJson? root }
  | _ => none

/-- The JSON text on one line. -/
def compactText (t : Tree) : String :=
  t.toJson.compact

/-- The JSON text with one line for each item. -/
def text (t : Tree) : String :=
  t.toJson.pretty

/-- Reads a tree from its JSON text. -/
def ofText (s : String) : Except Error Tree :=
  if Json.nestsDeeper maxNesting s then .error .tooDeep
  else match (Json.read? s).bind ofJson? with
    | some t => if t.version = formatVersion then .ok t else .error (.unsupportedVersion t.version)
    | none => .error .notATree

end Tree

end RouteIndex.Syntax
