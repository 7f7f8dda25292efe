/-
  Dates and times of TOML: a date, a time of day, or both, and with both perhaps an offset.

  A moment is written with a `T` between date and time and an upper-case `Z`, whatever the document
  had; fractions of a second have no zeros at their end.
-/

import RouteIndex.Text.Digit
import RouteIndex.Text.Scan

namespace RouteIndex.Toml

/-- A day of the calendar. -/
structure Date where
  year : Nat
  month : Nat
  day : Nat
  deriving DecidableEq, Repr

/-- A time of day. -/
structure Clock where
  hour : Nat
  minute : Nat
  second : Nat
  nanos : Nat
  deriving DecidableEq, Repr

/-- The distance from universal time. -/
inductive Offset where
  | universal
  | minutes (ahead : Int)
  deriving DecidableEq, Repr

/-- A date, a time, or both. -/
structure Moment where
  date : Option Date
  clock : Option Clock
  offset : Option Offset
  deriving DecidableEq, Repr

/-! ## The calendar -/

/-- Whether a year has a leap day. -/
def isLeapYear (year : Nat) : Bool :=
  year % 4 = 0 && (year % 100 ≠ 0 || year % 400 = 0)

/-- The number of days in a month. -/
def daysIn (year month : Nat) : Nat :=
  if month = 2 then if isLeapYear year then 29 else 28
  else if month = 4 || month = 6 || month = 9 || month = 11 then 30
  else 31

/-- Whether the calendar has the day. -/
def Date.isValid (d : Date) : Bool :=
  1 ≤ d.month && d.month ≤ 12 && 1 ≤ d.day && d.day ≤ daysIn d.year d.month

/-- Whether the day has the time; a minute may end with a leap second. -/
def Clock.isValid (c : Clock) : Bool :=
  c.hour ≤ 23 && c.minute ≤ 59 && c.second ≤ 60

/-! ## Writing -/

/-- A number filled up with zeros on the left. -/
def padded (width n : Nat) : List Char :=
  let digits := Text.digitsOf n
  List.replicate (width - digits.length) '0' ++ digits

/-- A fraction of a second, with its point; nothing for zero. -/
def fractionText (nanos : Nat) : List Char :=
  if nanos = 0 then []
  else '.' :: ((padded 9 nanos).reverse.dropWhile (· = '0')).reverse

/-- The text of a date. -/
def Date.text (d : Date) : List Char :=
  padded 4 d.year ++ '-' :: padded 2 d.month ++ '-' :: padded 2 d.day

/-- The text of a time. -/
def Clock.text (c : Clock) : List Char :=
  padded 2 c.hour ++ ':' :: padded 2 c.minute ++ ':' :: padded 2 c.second ++ fractionText c.nanos

/-- The text of an offset. -/
def Offset.text : Offset → List Char
  | .universal => ['Z']
  | .minutes ahead =>
    (if ahead < 0 then '-' else '+') ::
      padded 2 (ahead.natAbs / 60) ++ ':' :: padded 2 (ahead.natAbs % 60)

/-- The text of a moment. -/
def Moment.text (m : Moment) : List Char :=
  let date := (m.date.map Date.text).getD []
  let clock := (m.clock.map Clock.text).getD []
  let between := if m.date.isSome && m.clock.isSome then ['T'] else []
  date ++ between ++ clock ++ (m.offset.map Offset.text).getD []

/-! ## Reading -/

open Text Text.Scan

/-- A number of exactly so many digits. -/
def fixedNumber (width : Nat) : Scan Nat := do
  let digits ← (List.replicate width ()).mapM fun _ => char Char.isDigit
  return Nat.ofDigitChars 10 digits 0

/-- A date that the calendar has. -/
def Date.scan : Scan Date := do
  let year ← fixedNumber 4
  let month ← char (· = '-') *> fixedNumber 2
  let day ← char (· = '-') *> fixedNumber 2
  let date : Date := ⟨year, month, day⟩
  guard date.isValid
  return date

/-- A fraction of a second in billionths; what is smaller is cut off. -/
def scanFraction : Scan Nat := do
  let digits ← char (· = '.') *> run1 Char.isDigit
  return Nat.ofDigitChars 10 ((digits ++ List.replicate 9 '0').take 9) 0

/-- A time with its seconds. -/
def Clock.scan : Scan Clock := do
  let hour ← fixedNumber 2
  let minute ← char (· = ':') *> fixedNumber 2
  let second ← char (· = ':') *> fixedNumber 2
  let nanos ← optional scanFraction
  let clock : Clock := ⟨hour, minute, second, nanos.getD 0⟩
  guard clock.isValid
  return clock

/-- An offset. -/
def Offset.scan : Scan Offset := do
  let sign ← char fun c => c = 'Z' || c = 'z' || c = '+' || c = '-'
  if sign = 'Z' || sign = 'z' then return .universal
  else
    let hour ← fixedNumber 2
    let minute ← char (· = ':') *> fixedNumber 2
    guard (hour ≤ 23 && minute ≤ 59)
    let ahead : Int := hour * 60 + minute
    return .minutes (if sign = '-' then -ahead else ahead)

/-- A date, alone or with a time and perhaps an offset, or a time. -/
def Moment.scan : Scan Moment := do
  match ← optional Date.scan with
  | none => return ⟨none, some (← Clock.scan), none⟩
  | some date =>
    let time ← optional do
      let clock ← char (fun c => c = 'T' || c = 't' || c = ' ') *> Clock.scan
      return (clock, ← optional Offset.scan)
    match time with
    | some (clock, offset) => return ⟨some date, some clock, offset⟩
    | none => return ⟨some date, none, none⟩

/-- The moment that a whole text denotes. -/
def Moment.ofText? (s : String) : Option Moment :=
  whole? Moment.scan s.toList

end RouteIndex.Toml
