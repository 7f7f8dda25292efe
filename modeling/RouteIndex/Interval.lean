/-
  Interval literals, as the functions host reads them: `[d.]hh:mm[:ss[.fffffff]]`, or a bare number
  of days.  A policy only carries such a literal; nothing here is needed to write a unit, but a
  report tells which literals the host will refuse.

  Reading has three steps.  `Parts.ofText?` splits the text into its parts, digits of any script;
  `Parts.numbers` gives the parts their numbers, and refuses, in a fixed order, what is no ASCII
  number or too large for its part; `Parts.value` adds up the numbers, which may be too large in
  total.  `Parts.text` puts the parts together again.

  The numbers are words of sixty-four bits.  Where a result may be too large, the operation says so
  (`times?`, `plus?`); everywhere else the ranges of the parts leave room enough.
-/

import RouteIndex.Text.Blank
import RouteIndex.Text.Digit

namespace RouteIndex

/-- A length of time. -/
structure Interval where
  seconds : Nat
  nanos : Nat
  deriving DecidableEq, Repr

namespace Interval

/-- A part of an interval literal that can be out of range. -/
inductive Component where
  | days
  | hours
  | minutes
  | seconds
  | fraction
  deriving DecidableEq, Repr

/-- The name of a part in messages. -/
def Component.name : Component → String
  | .days => "days"
  | .hours => "hours"
  | .minutes => "minutes"
  | .seconds => "seconds"
  | .fraction => "fraction"

/-- Why a literal is no interval. -/
inductive Error where
  | malformed (literal : String)
  | outOfRange (literal : String) (component : Component)
  deriving DecidableEq, Repr

/-- The text of an error. -/
def Error.message : Error → String
  | .malformed literal =>
    "'" ++ literal ++ "' is not a duration literal (expected [d.]hh:mm[:ss[.fffffff]])"
  | .outOfRange literal component => "'" ++ literal ++ "' has " ++ component.name ++ " out of range"

/-! ## The parts of a literal -/

/-- The digits of each part, as they are written. -/
structure Parts where
  days : Option (List Char)
  hours : List Char
  minutes : List Char
  seconds : Option (List Char)
  fraction : Option (List Char)
  deriving DecidableEq, Repr

/-- The digits before the first other character, and the rest. -/
def digitRun (cs : List Char) : List Char × List Char :=
  (cs.takeWhile Text.isDecimalDigit, cs.dropWhile Text.isDecimalDigit)

/-- Whether a run of digits is as long as a clock number. -/
def isClockNumber (digits : List Char) : Bool :=
  digits.length == 1 || digits.length == 2

/-- The parts of `hh:mm[:ss[.fffffff]]`. -/
def Parts.clock? (days : Option (List Char)) (cs : List Char) : Option Parts :=
  let (hours, rest) := digitRun cs
  match rest with
  | ':' :: rest =>
    let (minutes, rest) := digitRun rest
    if isClockNumber hours && isClockNumber minutes then
      match rest with
      | [] => some ⟨days, hours, minutes, none, none⟩
      | ':' :: rest =>
        let (seconds, rest) := digitRun rest
        if isClockNumber seconds then
          match rest with
          | [] => some ⟨days, hours, minutes, some seconds, none⟩
          | '.' :: rest =>
            let (fraction, rest) := digitRun rest
            if rest.isEmpty && !fraction.isEmpty && fraction.length ≤ 7 then
              some ⟨days, hours, minutes, some seconds, some fraction⟩
            else none
          | _ => none
        else none
      | _ => none
    else none
  | _ => none

/-- The parts of `[d.]hh:mm[:ss[.fffffff]]`. -/
def Parts.ofText? (cs : List Char) : Option Parts :=
  let (run, rest) := digitRun cs
  match rest with
  | '.' :: rest => if run.isEmpty then none else clock? (some run) rest
  | _ => clock? none cs

/-- The text that has these parts. -/
def Parts.text (p : Parts) : List Char :=
  (match p.days with
    | some days => days ++ ['.']
    | none => []) ++
  p.hours ++ ':' :: p.minutes ++
  (match p.seconds with
    | some seconds => ':' :: seconds
    | none => []) ++
  (match p.fraction with
    | some fraction => '.' :: fraction
    | none => [])

/-! ## Words -/

/-- Seconds are counted in sixty-four bits. -/
def bound : Nat :=
  Nat.pow 2 64

/-- A number as a word, if it fits. -/
def word? (n : Nat) : Option UInt64 :=
  if n < bound then some (UInt64.ofNat n) else none

/-- The product of two words, if it fits. -/
def times? (a b : UInt64) : Option UInt64 :=
  word? (a.toNat * b.toNat)

/-- The sum of two words, if it fits. -/
def plus? (a b : UInt64) : Option UInt64 :=
  word? (a.toNat + b.toNat)

/-! ## The numbers of a literal -/

/-- The number that a part denotes. -/
def component (literal : String) (c : Component) (digits : List Char) : Except Error UInt64 :=
  match (Text.readNumber? digits).bind word? with
  | some n => .ok n
  | none => .error (.outOfRange literal c)

/-- The number of a part that may be left out, and is zero then. -/
def optionalComponent (literal : String) (c : Component) :
    Option (List Char) → Except Error UInt64
  | some digits => component literal c digits
  | none => .ok 0

/-- Refuses `c` unless the condition holds. -/
def inRange (literal : String) (c : Component) (condition : Bool) : Except Error Unit :=
  if condition then .ok () else .error (.outOfRange literal c)

/-- Digits filled up with zeros on the right to the seven places of a fraction. -/
def fillFraction (digits : List Char) : List Char :=
  digits ++ List.replicate (7 - digits.length) '0'

/-- The numbers that the parts of a literal denote. -/
structure Numbers where
  days : UInt64
  hours : UInt64
  minutes : UInt64
  seconds : UInt64
  /-- The fraction, in tenths of a microsecond. -/
  ticks : UInt64
  deriving DecidableEq, Repr

/-- The numbers of the parts: first they must be numbers, then in their ranges; the fraction comes
last. -/
def Parts.numbers (literal : String) (p : Parts) : Except Error Numbers := do
  let days ← optionalComponent literal .days p.days
  let hours ← component literal .hours p.hours
  let minutes ← component literal .minutes p.minutes
  let seconds ← optionalComponent literal .seconds p.seconds
  inRange literal .hours (hours ≤ 23)
  inRange literal .minutes (minutes ≤ 59)
  inRange literal .seconds (seconds ≤ 59)
  let ticks ← optionalComponent literal .fraction (p.fraction.map fillFraction)
  return ⟨days, hours, minutes, seconds, ticks⟩

/-! ## The value of a literal -/

/-- The seconds in a day. -/
def daySeconds : UInt64 :=
  86400

/-- The seconds of the time of day. -/
def Numbers.clock (n : Numbers) : UInt64 :=
  n.hours * 3600 + n.minutes * 60 + n.seconds

/-- The nanoseconds of the fraction. -/
def Numbers.nanos (n : Numbers) : UInt64 :=
  n.ticks * 100

/-- All seconds together, if they can be counted. -/
def Numbers.total? (n : Numbers) : Option UInt64 :=
  (times? n.days daySeconds).bind fun seconds => plus? seconds n.clock

/-- The nanoseconds in a second. -/
def secondNanos : Nat :=
  Nat.pow 10 9

/-- So many seconds and nanoseconds; what is a second and more of the latter goes to the former. -/
def ofWords (seconds : UInt64) (nanos : UInt32) : Interval :=
  ⟨seconds.toNat + nanos.toNat / secondNanos, nanos.toNat % secondNanos⟩

/-- The value of the parts: all numbers must be in range, and then their sum. -/
def Parts.value (literal : String) (p : Parts) : Except Error Interval := do
  let numbers ← p.numbers literal
  match numbers.total? with
  | some total => return ofWords total numbers.nanos.toUInt32
  | none => .error (.outOfRange literal .days)

/-- The value of a bare number of days. -/
def ofDays (literal : String) (digits : List Char) : Except Error Interval := do
  let days ← component literal .days digits
  match times? days daySeconds with
  | some total => return ofWords total 0
  | none => .error (.outOfRange literal .days)

/-- Whether a text is one or more ASCII digits. -/
def isDayCount (cs : List Char) : Bool :=
  !cs.isEmpty && cs.all Char.isDigit

/-- The interval that a literal denotes, blanks at its ends aside. -/
def ofLiteral (literal : String) : Except Error Interval :=
  let cs := Text.trim literal.toList
  if isDayCount cs then ofDays literal cs
  else match Parts.ofText? cs with
    | some parts => parts.value literal
    | none => .error (.malformed literal)

/-- Whether the host will accept a literal. -/
def isLiteral (literal : String) : Bool :=
  match ofLiteral literal with
  | .ok _ => true
  | .error _ => false

end Interval

end RouteIndex
