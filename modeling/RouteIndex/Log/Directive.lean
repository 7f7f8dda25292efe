/-
  Directives: what a log filter is made of.

  In full a directive is `target[span{field=value}]=level`, and each of the parts may be missing.  The
  target says whose events it is for.  A span, or a value of a field, restricts it to what happens
  inside of such a span; a field alone also restricts it to events with such a field.

  The places of the parts are found in the text without the blanks around it, but what stands there
  is taken from the text itself.  So a blank in front makes a directive mean something else: ` warn`
  is the target ` warn` and not a level.
-/

import RouteIndex.Decimal.Double
import RouteIndex.Level
import RouteIndex.Pattern.Fault

namespace RouteIndex.Log

/-! ## Thresholds -/

/-- The least level that passes; `none` when nothing does. -/
abbrev Threshold : Type :=
  Option Level

/-- Whether a level passes. -/
def passes (threshold : Threshold) (level : Level) : Bool :=
  threshold.any fun least => least.rank ≤ level.rank

/-- The name of a threshold. -/
def thresholdName (threshold : Threshold) : String :=
  (threshold.map Level.lowerName).getD "off"

/-- The threshold of a name, in upper or lower case, or of a number from zero to five. -/
def threshold? (s : String) : Option Threshold :=
  match Text.readNatural? s.toList with
  | some 0 => some none
  | some 1 => some (some .error)
  | some 2 => some (some .warn)
  | some 3 => some (some .info)
  | some 4 => some (some .debug)
  | some 5 => some (some .trace)
  | _ =>
    if s.toList.map Char.toLower = "off".toList then some none
    else (Level.ofName? s).map some

/-! ## Fields -/

/-- A value that a field of a span is to have. -/
inductive FieldValue where
  | flag (b : Bool)
  /-- A floating point number; one without a size is infinite. -/
  | real (isNegative : Bool) (size : Option Double)
  | notANumber
  | natural (n : Nat)
  | integer (i : Int)
  /-- A regular expression that the value is to match. -/
  | pattern (s : String)
  deriving DecidableEq, Repr

namespace FieldValue

/-- The truth value of a text. -/
def flag? (cs : List Char) : Option FieldValue :=
  if cs = "true".toList then some (.flag true)
  else if cs = "false".toList then some (.flag false)
  else none

/-- The number of a text that is not negative and below `2 ^ 64`. -/
def natural? (cs : List Char) : Option FieldValue :=
  ((Text.readNatural? cs).filter (· < Nat.pow 2 64)).map .natural

/-- The number of a text from `-2 ^ 63` on and below `2 ^ 63`. -/
def integer? (cs : List Char) : Option FieldValue :=
  let bound := Int.ofNat (Nat.pow 2 63)
  ((Text.readInteger? cs).filter fun i => -bound ≤ i && i < bound).map .integer

/-- The floating point number of a text; a number that is too large is infinite. -/
def real? (cs : List Char) : Option FieldValue :=
  let size := Text.unsigned cs
  let isNegative : Bool := cs.head? = some '-'
  let word := String.ofList (size.map Char.toLower)
  if word = "inf" || word = "infinity" then some (.real isNegative none)
  else if word = "nan" then some .notANumber
  else (Decimal.read? size).map fun d => .real isNegative (Double.ofDecimal? d)

/-- The value that a text stands for: what is neither a truth value nor a number is a pattern. -/
def ofText (cs : List Char) : Except Pattern.Fault FieldValue :=
  match flag? cs <|> natural? cs <|> integer? cs <|> real? cs with
  | some v => .ok v
  | none =>
    match Pattern.fault? cs with
    | some fault => .error fault
    | none => .ok (.pattern (String.ofList cs))

/-- The text of a value. -/
def text : FieldValue → List Char
  | .flag true => "true".toList
  | .flag false => "false".toList
  | .real isNegative size =>
    (if isNegative then ['-'] else []) ++
      match size with
      | some x => x.shortest.plain
      | none => "inf".toList
  | .notANumber => "NaN".toList
  | .natural n => Text.digitsOf n
  | .integer i => Text.integerDigits i
  | .pattern s => s.toList

/-- The place of the kind of a value among the kinds. -/
def kind : FieldValue → Nat
  | .flag _ => 0
  | .real .. => 1
  | .notANumber => 2
  | .natural _ => 3
  | .integer _ => 4
  | .pattern _ => 5

/-- The place of a value among those of its kind, if it is no regular expression. -/
def place : FieldValue → Int
  | .flag b => if b then 1 else 0
  | .real isNegative size =>
    let n := Int.ofNat ((size.map Double.place).getD (Nat.pow 2 64))
    if isNegative then -n else n
  | .natural n => n
  | .integer i => i
  | .notANumber | .pattern _ => 0

/-- The order of values: by kind, and then by size, or as texts. -/
def order (v w : FieldValue) : Ordering :=
  (compare v.kind w.kind).then <| (compare v.place w.place).then <|
    match v, w with
    | .pattern s, .pattern t => compare s t
    | _, _ => .eq

end FieldValue

/-- What is asked of the fields of a span or an event: that there is one of a name, and perhaps that
it has a value. -/
structure FieldTest where
  name : String
  value : Option FieldValue
  deriving DecidableEq, Repr

namespace FieldTest

/-- The test that a text stands for; a second equals sign and all that follows it does not count. -/
def ofText (cs : List Char) : Except Pattern.Fault FieldTest :=
  match Text.cut? '=' cs with
  | none => .ok ⟨String.ofList cs, none⟩
  | some (name, rest) => do
    let value ← FieldValue.ofText (((Text.cut? '=' rest).map (·.1)).getD rest)
    return ⟨String.ofList name, some value⟩

/-- The text of a test. -/
def text (t : FieldTest) : List Char :=
  t.name.toList ++
    match t.value with
    | some v => '=' :: v.text
    | none => []

/-- The order of tests: those with a value come later, and those of one sort go by name. -/
def order (t u : FieldTest) : Ordering :=
  (compare t.value.isSome u.value.isSome).then <| (compare t.name u.name).then <|
    match t.value, u.value with
    | some v, some w => v.order w
    | _, _ => .eq

end FieldTest

/-! ## Directives -/

/-- The threshold for some events. -/
structure Directive where
  target : Option String := none
  span : Option String := none
  field : Option FieldTest := none
  threshold : Threshold
  deriving DecidableEq, Repr

namespace Directive

/-- Whether a directive is for events in spans. -/
def isForSpans (d : Directive) : Bool :=
  d.span.isSome || d.field.isSome

/-- Whether a directive is for events wherever they happen. -/
def isForEvents (d : Directive) : Bool :=
  d.span.isNone && d.field.all (·.value.isNone)

/-- Whether a directive is for the events of a target that have fields of the given names. -/
def concerns (d : Directive) (target : String) (names : List String) : Bool :=
  d.target.all (fun start => start.toList.isPrefixOf target.toList) &&
    d.field.all fun t => names.contains t.name

/-- The order of directives from the most general to the most special one: a longer target, a span
and a field make a directive more special, in this order; what is equally special goes by its
texts. -/
def order (a b : Directive) : Ordering :=
  (compare (a.target.map String.utf8ByteSize) (b.target.map String.utf8ByteSize)).then <|
  (compare a.span.isSome b.span.isSome).then <|
  (compare a.field.isSome b.field.isSome).then <|
  (compare a.target b.target).then <|
  (compare a.span b.span).then <|
    match a.field, b.field with
    | some t, some u => t.order u
    | _, _ => .eq

/-- The text of what stands in brackets. -/
def scopeText (d : Directive) : List Char :=
  if d.isForSpans then
    '[' :: (d.span.getD "").toList ++
      (match d.field with
        | some t => '{' :: t.text ++ ['}']
        | none => []) ++ [']']
  else []

/-- The text of a directive. -/
def text (d : Directive) : String :=
  let subject := (d.target.getD "").toList ++ d.scopeText
  String.ofList (if d.target.isSome || d.isForSpans then subject ++ ['='] else []) ++
    thresholdName d.threshold

end Directive

/-! ## Reading directives -/

/-- A directive that cannot be read, and why. -/
inductive DirectiveError where
  | malformed
  | unknownThreshold
  /-- The value of a field is no pattern. -/
  | noPattern (fault : Pattern.Fault)
  deriving DecidableEq, Repr

/-- The text of an error. -/
def DirectiveError.message : DirectiveError → String
  | .malformed => "invalid filter directive"
  | .unknownThreshold =>
    "error parsing level filter: expected one of \"off\", \"error\", \"warn\", \"info\", " ++
      "\"debug\", \"trace\", or a number 0-5"
  | .noPattern fault => "invalid field filter: " ++ fault.message

/-- The characters of a text with their places, counted in bytes of UTF-8. -/
def placedFrom (n : Nat) : List Char → List (Nat × Char)
  | [] => []
  | c :: cs => (n, c) :: placedFrom (n + c.utf8Size) cs

/-- What stands in a text from a place on. -/
def beyond (cs : List Char) (first : Nat) : List Char :=
  ((placedFrom 0 cs).filter fun (i, _) => first ≤ i).map (·.2)

/-- What stands in a text from a place on and before another one. -/
def between (cs : List Char) (first last : Nat) : List Char :=
  ((placedFrom 0 cs).filter fun (i, _) => first ≤ i && i < last).map (·.2)

/-- A character that a target may start with. -/
def isTargetStart (c : Char) : Bool :=
  c = '-' || c = ':' || c = '_' || Text.isAlphanumeric c

namespace Directive

/-- The threshold after an equals sign; everything passes if nothing stands there. -/
def readThreshold (cs : List Char) : Except DirectiveError Threshold :=
  if cs.isEmpty then .ok (some .trace)
  else match threshold? (String.ofList cs) with
    | some threshold => .ok threshold
    | none => .error .unknownThreshold

/-- What follows the brackets of a directive: nothing, or a threshold.  The text `cs` is given besides
its part that is left, which has places. -/
def readEnd (cs : List Char) : List (Nat × Char) → Except DirectiveError Threshold
  | [] => .ok (some .trace)
  | (i, '=') :: _ => readThreshold (beyond cs (i + 1))
  | _ => .error .malformed

/-- What follows the opening bracket of a directive, which ends at the place `start`. -/
def readScope (cs : List Char) (target : Option String) (start : Nat) (left : List (Nat × Char)) :
    Except DirectiveError Directive :=
  match left.dropWhile fun (_, c) => c ≠ ']' && c ≠ '{' with
  | (i, ']') :: left => do
    let threshold ← readEnd cs left
    return { target, span := some (String.ofList (between cs start i)), threshold }
  | (i, _) :: left =>
    match left.dropWhile fun (_, c) => c ≠ '}' with
    | (j, _) :: left =>
      if i + 1 = j then .error .malformed
      else do
        let span := if i = start then none else some (String.ofList (between cs start i))
        let field ← (FieldTest.ofText (between cs (i + 1) j)).mapError DirectiveError.noPattern
        match left with
        | (_, ']') :: left =>
          let threshold ← readEnd cs left
          return { target, span, field := some field, threshold }
        | _ => .error .malformed
    | [] => .error .malformed
  | [] => .error .malformed

/-- The directive without brackets and equals sign: a threshold, or a target that passes all. -/
def ofWord (cs : List Char) : Directive :=
  match threshold? (String.ofList cs) with
  | some threshold => { threshold }
  | none => { target := some (String.ofList cs), threshold := some .trace }

/-- The directive of a text. -/
def ofText (s : String) : Except DirectiveError Directive :=
  let cs := s.toList
  match placedFrom 0 (Text.trim cs) with
  | [] => .error .malformed
  | (_, '[') :: left => readScope cs none 1 left
  | (i, c) :: left =>
    if !isTargetStart c then .error .malformed
    else match left.dropWhile fun (_, c) => c ≠ '=' && c ≠ '[' with
      | [] => .ok (ofWord cs)
      | (j, '=') :: _ => do
        let threshold ← readThreshold (beyond cs (j + 1))
        return { target := some (String.ofList (between cs i j)), threshold }
      | (j, _) :: left => readScope cs (some (String.ofList (between cs i j))) (j + 1) left

end Directive

end RouteIndex.Log
