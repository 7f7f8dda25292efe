/-
  Log filters: which events are logged.

  A filter is a list of directives such as `fnmeta=debug` or `warn`.  Of those that are for an event
  the most special one decides, and so they are kept in that order, with one directive for each
  subject.  Directives for spans are kept apart: they show in the text of a filter, but no event
  happens inside of a span, so they decide nothing.
-/

import RouteIndex.Event
import RouteIndex.Log.Directive

namespace RouteIndex.Log

/-- Directives, the most special ones first. -/
structure Filter where
  /-- The directives for events wherever they happen. -/
  forEvents : List Directive
  /-- The directives for what happens in spans. -/
  forSpans : List Directive
  deriving DecidableEq, Repr

namespace Filter

/-- Whether an event is logged. -/
def allows (f : Filter) (e : Event) : Bool :=
  (f.forEvents.find? (·.concerns e.target e.fieldNames)).any fun d => passes d.threshold e.level

/-! ## Order -/

/-- Puts a directive at its place, instead of one for the same subject. -/
def placeIn (d : Directive) : List Directive → List Directive
  | [] => [d]
  | e :: rest =>
    match d.order e with
    | .eq => d :: rest
    | .gt => d :: e :: rest
    | .lt => e :: placeIn d rest

/-- A filter with one more directive. -/
def insert (f : Filter) (d : Directive) : Filter where
  forEvents := if d.isForEvents then placeIn d f.forEvents else f.forEvents
  forSpans := if d.isForSpans then placeIn d f.forSpans else f.forSpans

/-! ## Text -/

/-- The text of a filter. -/
def text (f : Filter) : String :=
  ",".intercalate ((f.forEvents ++ f.forSpans).map Directive.text)

/-- What a filter is without any directive: errors only. -/
def errorsOnly : Filter :=
  ⟨[{ threshold := some .error }], []⟩

end Filter

/-- The pieces of a text that are meant to be directives. -/
def directiveTexts (s : String) : List String :=
  ((Text.pieces ',' s.toList).filter (!·.isEmpty)).map String.ofList

/-- The filter of a text; what is no directive does not count. -/
def Filter.ofText (s : String) : Filter :=
  let directives := (directiveTexts s).filterMap fun t => (Directive.ofText t).toOption
  if directives.isEmpty then errorsOnly else directives.foldl Filter.insert ⟨[], []⟩

/-- The lines that tell which pieces of a text are no directives. -/
def complaints (s : String) : List String :=
  (directiveTexts s).filterMap fun t =>
    match Directive.ofText t with
    | .ok _ => none
    | .error e => some ("ignoring `" ++ t ++ "`: " ++ e.message ++ "\n")

end RouteIndex.Log
