/-
  Retry policies: how the host calls a function again after a failure.

  The intervals of a policy are literals that are carried through as they are; whether the host can
  read them is the matter of `Interval`.  In JSON a policy is told apart by its field `strategy`,
  which may stand anywhere among the fields.
-/

import RouteIndex.Interval
import RouteIndex.Json.Printer
import RouteIndex.Json.Reader
import RouteIndex.Json.Fields
import RouteIndex.Text.Quoted

namespace RouteIndex

/-- How a function is called again after a failure. -/
inductive RetryPolicy where
  | none
  | fixedDelay (maxRetryCount : Int32) (delayInterval : String)
  | exponentialBackoff (maxRetryCount : Int32) (minimumInterval maximumInterval : String)
  deriving DecidableEq, Repr, Inhabited

namespace RetryPolicy

/-- Whether there is no retry at all. -/
def isNone : RetryPolicy → Bool
  | .none => true
  | _ => false

/-! ## Intervals -/

/-- The interval literals of a policy, each after the name of its field. -/
def intervals : RetryPolicy → List (String × String)
  | .none => []
  | .fixedDelay _ delay => [("DelayInterval", delay)]
  | .exponentialBackoff _ low high => [("MinimumInterval", low), ("MaximumInterval", high)]

/-- The names of the intervals that the host will refuse, in the order of the fields. -/
def invalidIntervals (p : RetryPolicy) : List String :=
  (p.intervals.filter fun (_, literal) => !Interval.isLiteral literal).map (·.1)

/-! ## JSON form -/

/-- The number as a JSON value. -/
def countJson (n : Int32) : Json :=
  .int n.toInt

/-- The JSON form, the strategy first. -/
def toJson : RetryPolicy → Json
  | .none => .object [("strategy", .text "none")]
  | .fixedDelay count delay =>
    .object [("strategy", .text "fixedDelay"), ("maxRetryCount", countJson count),
      ("delayInterval", .text delay)]
  | .exponentialBackoff count low high =>
    .object [("strategy", .text "exponentialBackoff"), ("maxRetryCount", countJson count),
      ("minimumInterval", .text low), ("maximumInterval", .text high)]

/-- Reads a signed number of thirty-two bits. -/
def count? (j : Json) : Option Int32 :=
  (j.intWithin? Int32.minValue.toInt Int32.maxValue.toInt).map Int32.ofInt

/-- Reads the fields of the policy that a strategy names. -/
def ofFields? (strategy : String) (j : Json) : Option RetryPolicy := do
  match strategy with
  | "none" =>
    match j with
    | .arr (_ :: _) => failure
    | _ => return .none
  | "fixedDelay" =>
    match ← j.fields? ["maxRetryCount", "delayInterval"] with
    | [count, delay] =>
      return .fixedDelay (← Json.required count? count) (← Json.required Json.text? delay)
    | _ => failure
  | "exponentialBackoff" =>
    match ← j.fields? ["maxRetryCount", "minimumInterval", "maximumInterval"] with
    | [count, low, high] =>
      return .exponentialBackoff (← Json.required count? count) (← Json.required Json.text? low)
        (← Json.required Json.text? high)
    | _ => failure
  | _ => failure

/-- Reads the JSON form, which may nest `levels` deep: the strategy decides how the other fields
are read, so all of them are kept until it is known. -/
def ofJson? (levels : Nat) (j : Json) : Option RetryPolicy := do
  guard (j.fits levels)
  match j with
  | .obj fields =>
    match ← Json.field? fields "strategy" with
    | some (.str (some strategy)) => ofFields? strategy (.obj (fields.filter (·.1 ≠ some "strategy")))
    | _ => failure
  | .arr (.str (some strategy) :: rest) => ofFields? strategy (.arr rest)
  | _ => failure

/-- The deepest nesting that a reader which keeps values accepts. -/
def maxLevels : Nat :=
  127

/-- The JSON text of a policy. -/
def text (p : RetryPolicy) : String :=
  p.toJson.compact

/-- Reads a policy from its JSON text. -/
def ofText? (s : String) : Option RetryPolicy :=
  (Json.read? s).bind (ofJson? maxLevels)

/-! ## For a reader -/

/-- The policy with the names and values of its fields. -/
def describe : RetryPolicy → String
  | .none => "None"
  | .fixedDelay count delay =>
    "FixedDelay \x7b max_retry_count: " ++ String.ofList (Text.integerDigits count.toInt) ++
      ", delay_interval: " ++ Text.quoted delay ++ " \x7d"
  | .exponentialBackoff count low high =>
    "ExponentialBackoff \x7b max_retry_count: " ++
      String.ofList (Text.integerDigits count.toInt) ++
      ", minimum_interval: " ++ Text.quoted low ++ ", maximum_interval: " ++ Text.quoted high ++
      " \x7d"

end RetryPolicy

end RouteIndex
