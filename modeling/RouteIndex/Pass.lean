/-
  Passes: computations that keep a log and can be cancelled from outside.

  A pass runs under a `Watch`, which holds the cancellation flag, the history of what the pass has
  done, and an `alarm`: the outside, which after every tick of the history may raise the flag.  The
  flag never falls again.  A tick is an event that was recorded, a node that was completed, or a
  check that found the flag down; so a moment in a pass is a point in its history, and an alarm can
  choose any of them.

  `check` is the only way in which cancellation stops a pass.
-/

import RouteIndex.Event

namespace RouteIndex

/-- The cause that ends a pass early. -/
inductive Cancelled where
  | cancelled
  deriving DecidableEq, Repr, Inhabited

/-- The text of the cause. -/
def Cancelled.message : Cancelled → String
  | .cancelled => "Generation cancelled"

/-- One thing that a pass has done. -/
inductive Tick where
  | event (e : Event)
  | node
  | check
  deriving DecidableEq, Repr, Inhabited

/-- The event of a tick, if it is one. -/
def Tick.event? : Tick → Option Event
  | .event e => some e
  | _ => none

/-- What surrounds a pass. -/
structure Watch where
  cancelled : Bool := false
  /-- What has been done, last first. -/
  history : List Tick := []
  /-- Whether the outside cancels now, after this history. -/
  alarm : List Tick → Bool := fun _ => false

namespace Watch

/-- A watch that nobody cancels. -/
def live : Watch :=
  {}

/-- A watch that was cancelled before anything happened. -/
def expired : Watch :=
  { cancelled := true }

/-- One more tick, after which the outside may cancel. -/
def tick (w : Watch) (t : Tick) : Watch :=
  { w with
    history := t :: w.history
    cancelled := w.cancelled || w.alarm (t :: w.history) }

/-- The events that were recorded, in order. -/
def events (w : Watch) : List Event :=
  w.history.reverse.filterMap Tick.event?

end Watch

/-- A computation under a watch. -/
def Pass (α : Type) : Type :=
  Watch → Except Cancelled α × Watch

namespace Pass

instance : Monad Pass where
  pure a := fun w => (.ok a, w)
  bind x f := fun w =>
    match x w with
    | (.ok a, w) => f a w
    | (.error e, w) => (.error e, w)

/-- Runs a pass to its result and the watch after it. -/
def run {α : Type} (p : Pass α) (w : Watch) : Except Cancelled α × Watch :=
  p w

/-- Records an event. -/
def record (e : Event) : Pass Unit :=
  fun w => (.ok (), w.tick (.event e))

/-- Tells that a node has been completed. -/
def completeNode : Pass Unit :=
  fun w => (.ok (), w.tick .node)

/-- Ends the pass if it has been cancelled. -/
def check : Pass Unit :=
  fun w => if w.cancelled then (.error .cancelled, w) else (.ok (), w.tick .check)

/-- Records events in order. -/
def recordAll : List Event → Pass Unit
  | [] => pure ()
  | e :: es => do
    record e
    recordAll es

/-- Runs `handler` after a pass that was cancelled; the pass stays cancelled. -/
def onCancel {α : Type} (p : Pass α) (handler : Pass Unit) : Pass α :=
  fun w =>
    match p w with
    | (.ok a, w) => (.ok a, w)
    | (.error e, w) => (.error e, (handler w).2)

end Pass

end RouteIndex
