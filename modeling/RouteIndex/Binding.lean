/-
  Bindings: the input and output connections that a function declares to its host.

  A function found by its route has two of them, an anonymous HTTP trigger for one verb and the
  HTTP response bound to the return value.  A binding is embedded in the generated unit as JSON
  text, so its JSON form comes with a reader.
-/

import RouteIndex.Json.Printer
import RouteIndex.Json.Reader
import RouteIndex.Verb

namespace RouteIndex

/-- Which way a binding carries data. -/
inductive Direction where
  | input
  | output
  deriving DecidableEq, Repr

/-- Who may call an HTTP trigger. -/
inductive AuthLevel where
  | anonymous
  | function
  | admin
  deriving DecidableEq, Repr

/-- One connection of a function to its host. -/
structure Binding where
  name : String
  type : String
  direction : Direction
  authLevel : Option AuthLevel
  methods : Option (List String)
  deriving DecidableEq, Repr

namespace Direction

/-- The JSON name of a direction. -/
def name : Direction → String
  | .input => "In"
  | .output => "Out"

/-- Reads a direction. -/
def ofJson? (j : Json) : Option Direction :=
  match j.variant? with
  | some "In" => some .input
  | some "Out" => some .output
  | _ => none

end Direction

namespace AuthLevel

/-- The JSON name of a level. -/
def name : AuthLevel → String
  | .anonymous => "Anonymous"
  | .function => "Function"
  | .admin => "Admin"

/-- Reads a level. -/
def ofJson? (j : Json) : Option AuthLevel :=
  match j.variant? with
  | some "Anonymous" => some .anonymous
  | some "Function" => some .function
  | some "Admin" => some .admin
  | _ => none

end AuthLevel

namespace Binding

/-! ## The two bindings of a route -/

/-- The anonymous HTTP trigger for one verb. -/
def trigger (v : Verb) : Binding where
  name := "req"
  type := "httpTrigger"
  direction := .input
  authLevel := some .anonymous
  methods := some [v.token]

/-- The HTTP response bound to the return value. -/
def response : Binding where
  name := "$return"
  type := "http"
  direction := .output
  authLevel := none
  methods := none

/-- The trigger first, the response last. -/
def forVerb (v : Verb) : List Binding :=
  [trigger v, response]

/-! ## JSON form -/

/-- The JSON form; fields without a value are left out. -/
def toJson (b : Binding) : Json :=
  .object <|
    [("name", .text b.name), ("type", .text b.type), ("direction", .text b.direction.name)] ++
    (match b.authLevel with
      | some level => [("authLevel", .text level.name)]
      | none => []) ++
    (match b.methods with
      | some methods => [("methods", .texts methods)]
      | none => [])

/-- Reads the JSON form. -/
def ofJson? (j : Json) : Option Binding := do
  match ← j.fields? ["name", "type", "direction", "authLevel", "methods"] with
  | [name, type, direction, authLevel, methods] =>
    return {
      name := ← Json.required Json.text? name
      type := ← Json.required Json.text? type
      direction := ← Json.required Direction.ofJson? direction
      authLevel := ← Json.optional AuthLevel.ofJson? authLevel
      methods := ← Json.optional (Json.items? Json.text?) methods }
  | _ => none

/-- The JSON text of a binding. -/
def text (b : Binding) : String :=
  b.toJson.compact

/-- Reads a binding from its JSON text. -/
def ofText? (s : String) : Option Binding :=
  (Json.read? s).bind ofJson?

end Binding

end RouteIndex
