/-
  Cancellation tokens: handles that share a flag.

  Tokens live in slots.  A new token has a flag of its own, a clone has the flag of the token that
  it was made from; cancelling any one of them cancels all that share its flag, for good.
-/

import RouteIndex.Pass

namespace RouteIndex

/-- The tokens that have been handed out. -/
structure Tokens where
  /-- Whether each flag has been raised. -/
  flags : List Bool
  /-- The flag of each slot. -/
  slots : List Nat
  deriving DecidableEq, Repr

namespace Tokens

/-- One token that is not cancelled. -/
def start : Tokens :=
  ⟨[false], [0]⟩

/-- Whether the token in a slot is cancelled; a slot without a token never is. -/
def isCancelled (t : Tokens) (slot : Nat) : Bool :=
  (t.slots[slot]?.bind (t.flags[·]?)).getD false

/-- Hands out a token of its own. -/
def create (t : Tokens) : Tokens :=
  ⟨t.flags ++ [false], t.slots ++ [t.flags.length]⟩

/-- Hands out another handle on the token in a slot. -/
def clone (t : Tokens) (slot : Nat) : Tokens :=
  match t.slots[slot]? with
  | some flag => { t with slots := t.slots ++ [flag] }
  | none => t

/-- Cancels the token in a slot. -/
def cancel (t : Tokens) (slot : Nat) : Tokens :=
  match t.slots[slot]? with
  | some flag => { t with flags := t.flags.set flag true }
  | none => t

/-- Fails if the token in a slot is cancelled. -/
def check (t : Tokens) (slot : Nat) : Except Cancelled Unit :=
  if t.isCancelled slot then .error .cancelled else .ok ()

/-- Whether each token is cancelled, by slot. -/
def states (t : Tokens) : List Bool :=
  (List.range t.slots.length).map t.isCancelled

end Tokens

end RouteIndex
