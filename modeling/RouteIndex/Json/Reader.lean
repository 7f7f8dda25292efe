/-
  JSON values from JSON text.

  The reader goes over the text from left to right and stops at the first character that cannot
  continue a JSON text.  Its state is the stack of the containers that are open, and what is
  expected next; so a law about reading is an induction over the characters, and "how deep is the
  reader" is the length of a list.

  `step` is one character, `read?` a whole text.  The grammar is the strict one: blanks are space,
  tab, line feed and carriage return; control characters in strings must be escaped; nothing but
  blanks may follow the value.  Halves of surrogate pairs are accepted, and the string then denotes
  no text.
-/

import RouteIndex.Json.Basic

namespace RouteIndex.Json

/-! ## String literals -/

/-- Where a string literal stands after a backslash. -/
inductive Escape where
  | none
  | backslash
  | hex (left value : Nat)

/-- A string literal that has been opened and not yet closed. -/
structure Literal where
  /-- The text so far, last character first; `none` once it holds half of a surrogate pair. -/
  text : Option (List Char) := some []
  /-- The first half of a surrogate pair whose second half has not come yet. -/
  high : Option Nat := none
  escape : Escape := .none

namespace Literal

/-- A character that stands for itself. -/
def push (lit : Literal) (c : Char) : Literal :=
  { text := if lit.high.isSome then none else lit.text.map (c :: ·) }

/-- A sixteen bit unit given by its four hexadecimal digits. -/
def pushUnit (lit : Literal) (n : Nat) : Literal :=
  let isHigh := 0xD800 ≤ n && n < 0xDC00
  let isLow := 0xDC00 ≤ n && n < 0xE000
  match lit.high with
  | some h =>
    if isLow then
      { text := lit.text.map (Char.ofNat (0x10000 + (h - 0xD800) * 0x400 + (n - 0xDC00)) :: ·) }
    else { text := none }
  | none =>
    if isHigh then { text := lit.text, high := some n }
    else if isLow then { text := none }
    else { text := lit.text.map (Char.ofNat n :: ·) }

/-- The text of the literal at its closing quote. -/
def close (lit : Literal) : Option String :=
  if lit.high.isSome then none else lit.text.map fun cs => String.ofList cs.reverse

/-- The character that a backslash and `c` denote. -/
def shortEscape? (c : Char) : Option Char :=
  match c with
  | '"' => some '"'
  | '\\' => some '\\'
  | '/' => some '/'
  | 'b' => some '\x08'
  | 'f' => some '\x0c'
  | 'n' => some '\n'
  | 'r' => some '\r'
  | 't' => some '\t'
  | _ => none

/-- One more character of the literal: the literal goes on (`inl`) or is closed (`inr`). -/
def step? (lit : Literal) (c : Char) : Option (Literal ⊕ Option String) :=
  match lit.escape with
  | .none =>
    if c = '"' then some (.inr lit.close)
    else if c = '\\' then some (.inl { lit with escape := .backslash })
    else if c.toNat < 0x20 then none
    else some (.inl (lit.push c))
  | .backslash =>
    if c = 'u' then some (.inl { lit with escape := .hex 4 0 })
    else (shortEscape? c).map fun d => .inl (lit.push d)
  | .hex left value =>
    (Text.hexValue? c).map fun d =>
      if left = 1 then .inl (lit.pushUnit (16 * value + d))
      else .inl { lit with escape := .hex (left - 1) (16 * value + d) }

end Literal

/-! ## Numbers -/

/-- The part of a number that was read last. -/
inductive NumberPart where
  | minus
  | zero
  | whole
  | point
  | fraction
  | mark
  | markSign
  | exponent
  deriving DecidableEq

/-- The part that `c` belongs to, when it continues a number. -/
def NumberPart.next? : NumberPart → Char → Option NumberPart
  | .minus, c => if c = '0' then some .zero else if c.isDigit then some .whole else none
  | .zero, c => if c = '.' then some .point else if c = 'e' || c = 'E' then some .mark else none
  | .whole, c =>
    if c.isDigit then some .whole
    else if c = '.' then some .point
    else if c = 'e' || c = 'E' then some .mark
    else none
  | .point, c => if c.isDigit then some .fraction else none
  | .fraction, c =>
    if c.isDigit then some .fraction else if c = 'e' || c = 'E' then some .mark else none
  | .mark, c =>
    if c = '+' || c = '-' then some .markSign else if c.isDigit then some .exponent else none
  | .markSign, c => if c.isDigit then some .exponent else none
  | .exponent, c => if c.isDigit then some .exponent else none

/-- The number whose last part is given, if it may end there; the lexeme is read backwards. -/
def NumberPart.value? (part : NumberPart) (backwards : List Char) : Option Json :=
  match part with
  | .zero | .whole =>
    match backwards.reverse with
    | ['-', '0'] => some (.decimal ['-', '0'])
    | lexeme => (Text.readInteger? lexeme).map .int
  | .fraction | .exponent => some (.decimal backwards.reverse)
  | _ => none

/-! ## The state of a reader -/

/-- A container that has been opened and not yet closed; what it holds so far is last first. -/
inductive Frame where
  | items (done : List Json)
  | fields (done : List (Option String × Json))
  /-- An object with a key whose value has not been read yet. -/
  | field (done : List (Option String × Json)) (key : Option String)

/-- What may come next. -/
inductive Expect where
  | value
  /-- After an opening bracket: an item, or the closing bracket. -/
  | firstItem
  /-- After an opening brace: a key, or the closing brace. -/
  | firstKey
  /-- After a comma in an object. -/
  | key
  | colon
  /-- After an item or a field: a comma, or the end of the container. -/
  | next
  /-- After the value of the whole text. -/
  | done (v : Json)
  | inString (isKey : Bool) (lit : Literal)
  | inNumber (part : NumberPart) (backwards : List Char)
  | inWord (rest : List Char) (v : Json)

/-- The containers that are open, innermost first, and what comes next. -/
structure Reader where
  opened : List Frame
  expect : Expect

namespace Reader

/-- Before the first character. -/
def start : Reader :=
  ⟨[], .value⟩

/-- The four blanks of JSON. -/
def isSpace (c : Char) : Bool :=
  c = ' ' || c = '\t' || c = '\n' || c = '\r'

/-- Puts a finished value where it belongs. -/
def deliver? (v : Json) : List Frame → Option Reader
  | [] => some ⟨[], .done v⟩
  | .items done :: outer => some ⟨.items (v :: done) :: outer, .next⟩
  | .field done key :: outer => some ⟨.fields ((key, v) :: done) :: outer, .next⟩
  | .fields _ :: _ => none

/-- Closes the innermost container, if `c` is its closing bracket. -/
def close? (c : Char) : List Frame → Option Reader
  | .items done :: outer => if c = ']' then deliver? (.arr done.reverse) outer else none
  | .fields done :: outer => if c = '}' then deliver? (.obj done.reverse) outer else none
  | _ => none

/-- The first character of a value. -/
def startValue? (opened : List Frame) (c : Char) : Option Reader :=
  match c with
  | '{' => some ⟨.fields [] :: opened, .firstKey⟩
  | '[' => some ⟨.items [] :: opened, .firstItem⟩
  | '"' => some ⟨opened, .inString false {}⟩
  | 't' => some ⟨opened, .inWord ['r', 'u', 'e'] (.bool true)⟩
  | 'f' => some ⟨opened, .inWord ['a', 'l', 's', 'e'] (.bool false)⟩
  | 'n' => some ⟨opened, .inWord ['u', 'l', 'l'] .null⟩
  | '-' => some ⟨opened, .inNumber .minus ['-']⟩
  | '0' => some ⟨opened, .inNumber .zero ['0']⟩
  | c => if c.isDigit then some ⟨opened, .inNumber .whole [c]⟩ else none

/-- A character after a finished value. -/
def afterValue? (r : Reader) (c : Char) : Option Reader :=
  if isSpace c then some r
  else match r.expect with
    | .next =>
      if c = ',' then
        match r.opened with
        | .items done :: outer => some ⟨.items done :: outer, .value⟩
        | .fields done :: outer => some ⟨.fields done :: outer, .key⟩
        | _ => none
      else close? c r.opened
    | _ => none

/-- A finished string is a value, or the key of the innermost object. -/
def closeString? (opened : List Frame) (isKey : Bool) (s : Option String) : Option Reader :=
  if isKey then
    match opened with
    | .fields done :: outer => some ⟨.field done s :: outer, .colon⟩
    | _ => none
  else deliver? (.str s) opened

/-- One character. -/
def step? (r : Reader) (c : Char) : Option Reader :=
  match r.expect with
  | .value => if isSpace c then some r else startValue? r.opened c
  | .firstItem =>
    if isSpace c then some r else if c = ']' then close? c r.opened else startValue? r.opened c
  | .firstKey =>
    if isSpace c then some r
    else if c = '}' then close? c r.opened
    else if c = '"' then some ⟨r.opened, .inString true {}⟩
    else none
  | .key =>
    if isSpace c then some r else if c = '"' then some ⟨r.opened, .inString true {}⟩ else none
  | .colon => if isSpace c then some r else if c = ':' then some ⟨r.opened, .value⟩ else none
  | .next | .done _ => afterValue? r c
  | .inString isKey lit =>
    match lit.step? c with
    | some (.inl lit) => some ⟨r.opened, .inString isKey lit⟩
    | some (.inr s) => closeString? r.opened isKey s
    | none => none
  | .inNumber part backwards =>
    match part.next? c with
    | some part => some ⟨r.opened, .inNumber part (c :: backwards)⟩
    | none => do
      let v ← part.value? backwards
      let after ← deliver? v r.opened
      after.afterValue? c
  | .inWord rest v =>
    match rest with
    | d :: rest =>
      if c = d then if rest.isEmpty then deliver? v r.opened else some ⟨r.opened, .inWord rest v⟩
      else none
    | [] => none

/-- All characters in turn. -/
def run? (r : Reader) : List Char → Option Reader
  | [] => some r
  | c :: cs =>
    match r.step? c with
    | some r => r.run? cs
    | none => none

/-- The value at the end of the text, if the text is complete. -/
def finish? (r : Reader) : Option Json :=
  match r.opened, r.expect with
  | [], .done v => some v
  | [], .inNumber part backwards => part.value? backwards
  | _, _ => none

end Reader

/-- The value that a text denotes, if it is JSON. -/
def read? (s : String) : Option Json :=
  (Reader.start.run? s.toList).bind Reader.finish?

end RouteIndex.Json
