/-
  The five HTTP verbs that a route can be registered for, and the registration method of each.

  `Verb.all` lists them; `Verb.ofMethod?` is the inverse of `Verb.method`, so a name is a registration
  method exactly when it has a verb.
-/

import RouteIndex.Json.Fields

namespace RouteIndex

/-- An HTTP verb. -/
inductive Verb where
  | get
  | post
  | put
  | delete
  | patch
  deriving DecidableEq, Repr

namespace Verb

/-- Every verb once. -/
def all : List Verb :=
  [.get, .post, .put, .delete, .patch]

/-- The verb as it stands in a request. -/
def token : Verb → String
  | .get => "GET"
  | .post => "POST"
  | .put => "PUT"
  | .delete => "DELETE"
  | .patch => "PATCH"

/-- The method that registers a route for the verb. -/
def method : Verb → String
  | .get => "MapGet"
  | .post => "MapPost"
  | .put => "MapPut"
  | .delete => "MapDelete"
  | .patch => "MapPatch"

/-- The verb that a method registers for; only the exact names count. -/
def ofMethod? (m : String) : Option Verb :=
  all.find? (·.method = m)

/-- The verb as a JSON value. -/
def toJson (v : Verb) : Json :=
  .text v.token

end Verb

end RouteIndex
