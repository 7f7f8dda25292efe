/-
  Log lines: an event as one line of text, or as one line of JSON.
-/

import RouteIndex.Event
import RouteIndex.Log.Config

namespace RouteIndex.Log

/-- A fact as a JSON value. -/
def factJson : Event.Field → Json
  | .number n => .nat n
  | .text s => .text s
  | .quoted s => .text s
  | .flag b => .bool b

/-- A fact behind its name. -/
def factText (fact : String × Event.Field) : String :=
  " " ++ fact.1 ++ "=" ++
    match fact.2 with
    | .text s => s
    | .quoted s => Text.quoted s
    | f => (factJson f).compact

/-- The target of an event, if lines have it. -/
def Config.shownTarget (config : Config) (e : Event) : String :=
  if config.includeTarget then " " ++ e.target ++ ":" else ""

/-- The line of an event. -/
def textLine (config : Config) (e : Event) : String :=
  e.level.name ++ config.shownTarget e ++ " " ++ e.message ++ String.join (e.fields.map factText)

/-- The line of an event in JSON. -/
def jsonLine (config : Config) (e : Event) : String :=
  Json.compact <| .object <|
    [("level", .text e.level.name),
      ("fields", .object (("message", .text e.message) ::
        e.fields.map fun (name, fact) => (name, factJson fact)))] ++
    (if config.includeTarget then [("target", .text e.target)] else [])

/-- The line of an event as the configuration wants it, with its end. -/
def line (config : Config) (e : Event) : String :=
  (if config.useJson then jsonLine config e else textLine config e) ++ "\n"

end RouteIndex.Log
