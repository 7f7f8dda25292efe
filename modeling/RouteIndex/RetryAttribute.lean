/-
  Retry attributes: how a declaration says that the functions registered in it are to be retried.

  The first attribute with a known name decides, whatever comes after it.  Its arguments must be
  literals of the expected shape; otherwise the attribute itself is the error.
-/

import RouteIndex.RetryPolicy
import RouteIndex.Syntax.Node

namespace RouteIndex

open Syntax

/-- The two retry attributes. -/
inductive RetryAttribute where
  | fixedDelay
  | exponentialBackoff
  deriving DecidableEq, Repr

namespace RetryAttribute

/-- The name of an attribute. -/
def name : RetryAttribute → String
  | .fixedDelay => "FixedDelayRetry"
  | .exponentialBackoff => "ExponentialBackoffRetry"

/-- The text without one `Attribute` at its end. -/
def withoutSuffix (s : String) : String :=
  let ending := "Attribute".toList
  let cs := s.toList
  if ending.isSuffixOf cs then String.ofList (cs.take (cs.length - ending.length)) else s

/-- The attribute that is written as `s`, with or without the suffix. -/
def ofText? (s : String) : Option RetryAttribute :=
  if withoutSuffix s = name .fixedDelay then some .fixedDelay
  else if withoutSuffix s = name .exponentialBackoff then some .exponentialBackoff
  else none

/-- The attribute that a node stands for. -/
def ofNode? (n : Node) : Option RetryAttribute :=
  if n.kind = .attribute then n.text.bind ofText? else none

/-! ## Literals -/

/-- The value of an integer literal of thirty-two bits, blanks at its ends aside. -/
def integer? (n : Node) : Option Int32 := do
  guard (n.kind = .numericLiteral)
  let text ← n.text
  let value ← Text.readInteger? (Text.trim text.toList)
  guard (Int32.minValue.toInt ≤ value && value ≤ Int32.maxValue.toInt)
  return Int32.ofInt value

/-- The value of a string literal. -/
def string? (n : Node) : Option String :=
  if n.kind = .stringLiteral then n.text else none

/-! ## Policies -/

/-- The policy that an attribute with these arguments asks for. -/
def policy? (a : RetryAttribute) (arguments : List Node) : Option RetryPolicy :=
  match a, arguments with
  | .fixedDelay, [count, delay] => do
    return .fixedDelay (← integer? count) (← string? delay)
  | .exponentialBackoff, [count, low, high] => do
    return .exponentialBackoff (← integer? count) (← string? low) (← string? high)
  | _, _ => none

/-- The policy of the first retry attribute among the nodes, or the attribute that is malformed. -/
def policyOf : List Node → Except RetryAttribute RetryPolicy
  | [] => .ok .none
  | n :: ns =>
    match ofNode? n with
    | some a =>
      match a.policy? n.attributeArguments with
      | some p => .ok p
      | none => .error a
    | none => policyOf ns

/-- The policy of a declaration. -/
def policyOfDeclaration (declaration : Node) : Except RetryAttribute RetryPolicy :=
  policyOf declaration.children

end RetryAttribute

end RouteIndex
