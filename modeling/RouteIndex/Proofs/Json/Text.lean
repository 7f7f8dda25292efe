/-
  JSON text, written and read again.

  Every value whose numbers are integers is read back from its text, whatever blanks the layout puts
  between its parts.  The reader takes one character at a time, so the law is stated for a value in
  the middle of a text: in front of it the reader expects a value, behind it the value has been
  delivered to the open containers, and the rest of the text is still to come.

  * `run?_literalTail` — a string literal, one character after the other (`run?_escapeChar`);
  * `run?_integer` — a number, which ends only at the character behind it;
  * `run?_write` — any value, by recursion on the value together with items and fields;
  * `read?_write` — a whole text.

  The compact text stands on one line: no character of it is a control character
  (`printable_write`), since literals escape them.
-/

import RouteIndex.Json.Printer
import RouteIndex.Json.Reader
import RouteIndex.Proofs.Text.Digits

namespace RouteIndex.Json

/-! ## Values whose numbers are integers -/

mutual

/-- Whether every number in the value is an integer. -/
def isIntegral : Json → Bool
  | .decimal _ => false
  | .arr items => itemsIntegral items
  | .obj fields => fieldsIntegral fields
  | _ => true

/-- `isIntegral` for every item. -/
def itemsIntegral : List Json → Bool
  | [] => true
  | v :: vs => v.isIntegral && itemsIntegral vs

/-- `isIntegral` for the value of every field. -/
def fieldsIntegral : List (Option String × Json) → Bool
  | [] => true
  | (_, v) :: fs => v.isIntegral && fieldsIntegral fs

end

/-- A list of values with integers only has integers only; the values may be written from anything. -/
theorem isIntegral_arr_map {α : Type} {write : α → Json} (h : ∀ a, (write a).isIntegral = true)
    (as : List α) : (arr (as.map write)).isIntegral = true := by
  show itemsIntegral (as.map write) = true
  induction as with
  | nil => rfl
  | cons a as ih =>
    rw [List.map_cons, itemsIntegral, h a, ih]
    rfl

/-- So does a record of such values. -/
theorem isIntegral_object {fs : List (String × Json)} (h : ∀ f ∈ fs, f.2.isIntegral = true) :
    (object fs).isIntegral = true := by
  show fieldsIntegral (fs.map _) = true
  induction fs with
  | nil => rfl
  | cons f fs ih =>
    rw [List.map_cons, fieldsIntegral, h f List.mem_cons_self,
      ih fun g hg => h g (List.mem_cons_of_mem f hg)]
    rfl

theorem fieldsIntegral_append (fs gs : List (Option String × Json)) :
    fieldsIntegral (fs ++ gs) = (fieldsIntegral fs && fieldsIntegral gs) := by
  induction fs with
  | nil => rfl
  | cons f fs ih => rw [List.cons_append, fieldsIntegral, fieldsIntegral, ih, Bool.and_assoc]

/-- A layout that puts only blanks between the parts of a value. -/
structure Layout.IsBlank (layout : Layout) : Prop where
  line : ∀ depth, ∀ c ∈ layout.line depth, Reader.isSpace c = true
  colon : ∃ blanks, layout.colon = ':' :: blanks ∧ ∀ c ∈ blanks, Reader.isSpace c = true

theorem compact_isBlank : Layout.compact.IsBlank :=
  ⟨fun _ _ hc => (List.not_mem_nil hc).elim, [], rfl, fun _ hc => (List.not_mem_nil hc).elim⟩

/-- The layout on many lines puts line feeds and spaces between the parts, which are blanks of
JSON. -/
theorem pretty_isBlank : Layout.pretty.IsBlank := by
  refine ⟨fun depth c hc => ?_, [' '], rfl, fun c hc => ?_⟩
  · rcases List.mem_cons.mp hc with rfl | hc
    · rfl
    · rw [(List.mem_replicate.mp hc).2]
      rfl
  · rw [List.mem_singleton.mp hc]
    rfl

namespace Reader

/-! ## Runs -/

/-- One character and then the rest. -/
theorem run?_cons {r r' : Reader} {c : Char} (cs : List Char) (h : r.step? c = some r') :
    r.run? (c :: cs) = r'.run? cs := by
  rw [run?, h]

theorem run?_cons_eq_bind (r : Reader) (c : Char) (cs : List Char) :
    r.run? (c :: cs) = (r.step? c).bind (·.run? cs) := by
  rw [run?]
  cases r.step? c with
  | none => rfl
  | some r' => rfl

/-- Blanks leave a reader as it is, where it passes over each of them.  Inside a literal or a number
it does not, therefore the condition. -/
theorem run?_blanks {r : Reader} (hr : ∀ c, isSpace c = true → r.step? c = some r)
    {blanks : List Char} (h : ∀ c ∈ blanks, isSpace c = true) (rest : List Char) :
    r.run? (blanks ++ rest) = r.run? rest := by
  induction blanks with
  | nil => rfl
  | cons c blanks ih =>
    rw [List.cons_append, run?_cons _ (hr c (h c List.mem_cons_self))]
    exact ih fun d hd => h d (List.mem_cons_of_mem c hd)

/-- A reader that has been handed a value goes on as after any value. -/
theorem step?_of_deliver? {v : Json} {opened : List Frame} {r : Reader}
    (h : deliver? v opened = some r) (c : Char) : r.step? c = r.afterValue? c := by
  cases opened with
  | nil =>
    obtain rfl := Option.some.inj h
    rfl
  | cons f outer =>
    cases f with
    | items done | field done key =>
      obtain rfl := Option.some.inj h
      rfl
    | fields done => nomatch h

/-! ## String literals -/

/-- The hexadecimal digits of a control character: there are only thirty-two, so all of them are
looked at. -/
theorem hexDigits_control : ∀ n < 0x20, ∃ a b, Text.hexDigits 4 n = ['0', '0', a, b] ∧
    Text.hexValue? a = some (n / 16) ∧ Text.hexValue? b = some (n % 16) := by
  intro n hn
  refine ⟨Nat.digitChar (n / 16), Nat.digitChar (n % 16), ?_⟩
  revert n
  decide

/-- A literal without escapes under way, which has the text `acc` so far, read backwards. -/
def plainLiteral (acc : List Char) : Literal :=
  ⟨some acc, none, .none⟩

/-- The escape of a control character by its number. -/
theorem run?_hexEscape (opened : List Frame) (isKey : Bool) (acc : List Char) {c : Char}
    (hc : c.toNat < 0x20) (rest : List Char) :
    run? ⟨opened, .inString isKey (plainLiteral acc)⟩
        ('\\' :: 'u' :: (Text.hexDigits 4 c.toNat ++ rest)) =
      run? ⟨opened, .inString isKey (plainLiteral (c :: acc))⟩ rest := by
  obtain ⟨a, b, hdigits, ha, hb⟩ := hexDigits_control c.toNat hc
  have hvalue : 16 * (16 * 0 + c.toNat / 16) + c.toNat % 16 = c.toNat := by omega
  -- A control character is no surrogate, so its unit is the character itself.
  have hunit : (plainLiteral acc).pushUnit c.toNat = plainLiteral (c :: acc) := by
    have hhigh : ¬ 0xD800 ≤ c.toNat := by omega
    have hlow : ¬ 0xDC00 ≤ c.toNat := by omega
    simp [Literal.pushUnit, plainLiteral, hhigh, hlow]
  have hfirst : step? ⟨opened, .inString isKey ⟨some acc, none, .hex 2 0⟩⟩ a =
      some ⟨opened, .inString isKey ⟨some acc, none, .hex 1 (16 * 0 + c.toNat / 16)⟩⟩ := by
    simp only [step?, Literal.step?, ha, Option.map_some]
    rfl
  have hlast : step? ⟨opened, .inString isKey ⟨some acc, none, .hex 1 (16 * 0 + c.toNat / 16)⟩⟩ b =
      some ⟨opened, .inString isKey (plainLiteral (c :: acc))⟩ := by
    simp only [step?, Literal.step?, hb, Option.map_some, if_true, hvalue]
    rw [← hunit]
    rfl
  rw [hdigits]
  show run? ⟨opened, .inString isKey ⟨some acc, none, .hex 2 0⟩⟩ (a :: b :: rest) = _
  rw [run?_cons _ hfirst, run?_cons _ hlast]

theorem plainLiteral_nil : ({} : Literal) = plainLiteral [] :=
  rfl

/-- One character of the text, however it is written: by an escape of one letter, by its number, or
as it is. -/
theorem run?_escapeChar (opened : List Frame) (isKey : Bool) (acc : List Char) (c : Char)
    (rest : List Char) :
    run? ⟨opened, .inString isKey (plainLiteral acc)⟩ (escapeChar c ++ rest) =
      run? ⟨opened, .inString isKey (plainLiteral (c :: acc))⟩ rest := by
  unfold escapeChar
  split
  case h_8 hquote hbackslash _ _ _ _ _ =>
    split
    · rename_i hc
      exact run?_hexEscape opened isKey acc hc rest
    · rename_i hc
      refine run?_cons _ ?_
      simp only [step?, Literal.step?, plainLiteral]
      rw [if_neg hquote, if_neg hbackslash, if_neg hc]
      rfl
  -- The short escapes are two characters each, and reading them is a computation.
  all_goals rfl

/-- The characters of a text, one after the other.  What has been read so far is kept backwards, as
the reader keeps it. -/
theorem run?_escaped (opened : List Frame) (isKey : Bool) (cs : List Char) :
    ∀ (acc rest : List Char),
      run? ⟨opened, .inString isKey (plainLiteral acc)⟩ (cs.flatMap escapeChar ++ rest) =
        run? ⟨opened, .inString isKey (plainLiteral (cs.reverse ++ acc))⟩ rest := by
  -- the text grows at its front, since it is kept backwards
  induction cs with
  | nil =>
    intro acc rest
    rfl
  | cons c cs ih =>
    intro acc rest
    rw [List.flatMap_cons, List.append_assoc, run?_escapeChar, ih, List.reverse_cons,
      List.append_assoc]
    rfl

/-- A literal after its opening quote: at its end the text has been handed over.  The literal for no
text, half of a surrogate pair, is read to its end in the same way. -/
theorem run?_literalTail (opened : List Frame) (isKey : Bool) (s : Option String)
    (rest : List Char) :
    run? ⟨opened, .inString isKey {}⟩ ((literal s).tail ++ rest) =
      (closeString? opened isKey s).bind (·.run? rest) := by
  cases s with
  | none => exact run?_cons_eq_bind ⟨opened, .inString isKey ⟨some [], some 0xD800, .none⟩⟩ '"' rest
  | some s =>
    have hclose : (plainLiteral (s.toList.reverse ++ [])).close = some s := by
      simp [Literal.close, plainLiteral]
    have htail : (literal (some s)).tail = s.toList.flatMap escapeChar ++ ['"'] := rfl
    rw [htail, List.append_assoc, List.singleton_append, plainLiteral_nil, run?_escaped,
      run?_cons_eq_bind]
    simp only [step?, Literal.step?, plainLiteral, if_true] at hclose ⊢
    rw [hclose]

/-! ## Numbers -/

/-- A character that cannot continue an integer. -/
def endsNumber (c : Char) : Bool :=
  !c.isDigit && c ≠ '.' && c ≠ 'e' && c ≠ 'E'

theorem endsNumber_of_isSpace {c : Char} (h : isSpace c = true) : endsNumber c = true := by
  simp only [isSpace, Bool.or_eq_true, decide_eq_true_eq] at h
  rcases h with ((rfl | rfl) | rfl) | rfl <;> rfl

theorem isSpace_of_isDigit {c : Char} (h : c.isDigit = true) : isSpace c = false := by
  rw [← Bool.not_eq_true]
  intro hs
  simp only [isSpace, Bool.or_eq_true, decide_eq_true_eq] at hs
  rcases hs with ((rfl | rfl) | rfl) | rfl <;> exact absurd h (by decide)

/-- The parts at which an integer may end. -/
def NumberPart.isInteger (part : NumberPart) : Bool :=
  part = .zero || part = .whole

/-- At a part at which an integer may end, no character goes on with it that ends numbers. -/
theorem next?_of_endsNumber {part : NumberPart} (hp : NumberPart.isInteger part = true) {c : Char}
    (hc : endsNumber c = true) : part.next? c = none := by
  simp only [endsNumber, Bool.and_eq_true, Bool.not_eq_true', decide_eq_true_eq] at hc
  obtain ⟨⟨⟨hd, hpoint⟩, he⟩, hE⟩ := hc
  cases part with
  | zero | whole => simp [NumberPart.next?, hd, hpoint, he, hE]
  | _ => nomatch hp

/-- A digit that is not zero begins a number. -/
theorem startValue?_digit (opened : List Frame) {c : Char} (hd : c.isDigit = true) (h0 : c ≠ '0') :
    startValue? opened c = some ⟨opened, .inNumber .whole [c]⟩ := by
  unfold startValue?
  split
  case h_9 => rw [if_pos hd]
  case h_8 => exact absurd rfl h0
  all_goals exact absurd hd (by decide)

/-- The digits of an integer, once there is one that is no zero in front.  The induction is over the
digits; the lexeme grows backwards. -/
theorem run?_digits (opened : List Frame) {cs : List Char} (h : ∀ c ∈ cs, c.isDigit = true) :
    ∀ (backwards rest : List Char),
      run? ⟨opened, .inNumber .whole backwards⟩ (cs ++ rest) =
        run? ⟨opened, .inNumber .whole (cs.reverse ++ backwards)⟩ rest := by
  induction cs with
  | nil =>
    -- The digits that were read stand backwards in the reader, so the accumulator is left open.
    intro backwards rest
    rfl
  | cons c cs ih =>
    intro backwards rest
    have hc : c.isDigit = true := h c List.mem_cons_self
    have hstep : step? ⟨opened, .inNumber .whole backwards⟩ c =
        some ⟨opened, .inNumber .whole (c :: backwards)⟩ := by
      simp [step?, NumberPart.next?, hc]
    rw [List.cons_append, run?_cons _ hstep, ih fun d hd => h d (List.mem_cons_of_mem c hd),
      List.reverse_cons, List.append_assoc]
    rfl

/-- The value of an integer that is written without a zero in front.  Minus zero would be a number
with a fraction for the reader, and is never written. -/
theorem value?_of_readInteger? {part : NumberPart} (hp : NumberPart.isInteger part = true)
    {lexeme : List Char} {i : Int} (h : Text.readInteger? lexeme = some i)
    (hz : lexeme ≠ ['-', '0']) : part.value? lexeme.reverse = some (.int i) := by
  cases part with
  | zero | whole =>
    -- the condition `hz` takes the row of `-0` away
    simp only [NumberPart.value?, List.reverse_reverse]
    rw [h]
    rfl
  | _ => nomatch hp

/-- A written integer brings the reader to a place where the integer may end, with the lexeme that
it was written as.  The cases are zero, the positive numbers and the negative ones. -/
theorem run?_integerDigits (i : Int) : ∃ part : NumberPart, NumberPart.isInteger part = true ∧
    part.value? (Text.integerDigits i).reverse = some (.int i) ∧
    ∀ opened rest, run? ⟨opened, .value⟩ (Text.integerDigits i ++ rest) =
      run? ⟨opened, .inNumber part (Text.integerDigits i).reverse⟩ rest := by
  have hread := Text.readInteger?_integerDigits i
  -- Zero, the positive and the negative integers end in three different parts of a number.
  cases i with
  | ofNat n =>
    cases n with
    | zero => exact ⟨.zero, rfl, rfl, fun opened rest => rfl⟩
    | succ n =>
      obtain ⟨c, cs, hcs, hc⟩ := Text.digitsOf_eq_cons_of_pos (n + 1) (Nat.succ_pos n)
      have hdigit (d : Char) (hd : d ∈ c :: cs) : d.isDigit = true :=
        Text.isDigit_of_mem_digitsOf (hcs ▸ hd)
      have hlexeme : Text.integerDigits (Int.ofNat (n + 1)) = c :: cs := hcs
      rw [hlexeme] at hread ⊢
      refine ⟨.whole, rfl, value?_of_readInteger? rfl hread ?_, fun opened rest => ?_⟩
      · intro h
        have hminus := hdigit '-' (h ▸ List.mem_cons_self)
        exact absurd hminus (by decide)
      · have hstart := startValue?_digit opened (hdigit c List.mem_cons_self) hc
        have hspace : isSpace c = false := isSpace_of_isDigit (hdigit c List.mem_cons_self)
        have hstep : step? ⟨opened, .value⟩ c = some ⟨opened, .inNumber .whole [c]⟩ := by
          simp [step?, hspace, hstart]
        rw [List.cons_append, run?_cons _ hstep,
          run?_digits opened fun d hd => hdigit d (List.mem_cons_of_mem c hd), List.reverse_cons]
  | negSucc n =>
    obtain ⟨c, cs, hcs, hc⟩ := Text.digitsOf_eq_cons_of_pos (n + 1) (Nat.succ_pos n)
    have hdigit (d : Char) (hd : d ∈ c :: cs) : d.isDigit = true :=
      Text.isDigit_of_mem_digitsOf (hcs ▸ hd)
    have hlexeme : Text.integerDigits (Int.negSucc n) = '-' :: c :: cs := congrArg _ hcs
    rw [hlexeme] at hread ⊢
    refine ⟨.whole, rfl, value?_of_readInteger? rfl hread ?_, fun opened rest => ?_⟩
    · intro h
      exact hc (List.cons.inj (List.cons.inj h).2).1
    · have hstep : step? ⟨opened, .inNumber .minus ['-']⟩ c =
          some ⟨opened, .inNumber .whole [c, '-']⟩ := by
        simp [step?, NumberPart.next?, hc, hdigit c List.mem_cons_self]
      show run? ⟨opened, .inNumber .minus ['-']⟩ (c :: (cs ++ rest)) = _
      rw [run?_cons _ hstep, run?_digits opened fun d hd => hdigit d (List.mem_cons_of_mem c hd)]
      simp

/-- A number ends at the character behind it, which then comes after the delivered value. -/
theorem run?_integer (opened : List Frame) (i : Int) {rest : List Char}
    (hrest : rest.head?.any endsNumber = true) :
    run? ⟨opened, .value⟩ (Text.integerDigits i ++ rest) =
      (deliver? (.int i) opened).bind (·.run? rest) := by
  obtain ⟨part, hp, hvalue, hrun⟩ := run?_integerDigits i
  cases rest with
  | nil => nomatch hrest
  | cons c cs =>
    have hnext : part.next? c = none := next?_of_endsNumber hp (by simpa using hrest)
    -- one step delivers the number and then takes the character behind it
    rw [hrun, run?_cons_eq_bind]
    simp only [step?, hnext, hvalue, Option.bind_eq_bind, Option.bind_some]
    cases hd : deliver? (.int i) opened with
    | none => rfl
    | some r =>
      rw [Option.bind_some, Option.bind_some, run?_cons_eq_bind, step?_of_deliver? hd]

/-! ## Items and fields -/

/-- Blanks in front of what ends a number end it too. -/
theorem endsNumber_head_of_blanks {blanks rest : List Char} (h : ∀ c ∈ blanks, isSpace c = true)
    (hrest : rest.head?.any endsNumber = true) : (blanks ++ rest).head?.any endsNumber = true := by
  cases blanks with
  | nil => exact hrest
  | cons c blanks => exact endsNumber_of_isSpace (h c List.mem_cons_self)

/-- Right after its opening bracket an array is read as if an item had to come, unless it ends.  So
items are read in the same way wherever they stand. -/
theorem run?_firstItem (opened : List Frame) {blanks : List Char}
    (h : ∀ c ∈ blanks, isSpace c = true) {c : Char} (hs : isSpace c = false) (hc : c ≠ ']')
    (cs : List Char) :
    run? ⟨opened, .firstItem⟩ (blanks ++ c :: cs) = run? ⟨opened, .value⟩ (blanks ++ c :: cs) := by
  rw [run?_blanks (fun d hd => by simp [step?, hd]) h,
    run?_blanks (fun d hd => by simp [step?, hd]) h, run?_cons_eq_bind, run?_cons_eq_bind]
  simp [step?, hs, hc]

/-- Right after its opening brace an object is read as if a key had to come, unless it ends. -/
theorem run?_firstKey (opened : List Frame) {blanks : List Char}
    (h : ∀ c ∈ blanks, isSpace c = true) (cs : List Char) :
    run? ⟨opened, .firstKey⟩ (blanks ++ '"' :: cs) =
      run? ⟨opened, .inString true {}⟩ cs ∧
    run? ⟨opened, .key⟩ (blanks ++ '"' :: cs) = run? ⟨opened, .inString true {}⟩ cs := by
  constructor
  · rw [run?_blanks (fun d hd => by simp [step?, hd]) h]
    rfl
  · rw [run?_blanks (fun d hd => by simp [step?, hd]) h]
    rfl

end Reader

open Reader

theorem literal_eq_cons (s : Option String) : literal s = '"' :: (literal s).tail := by
  cases s with
  | none => rfl
  | some s => rfl

/-- The first character of a value is no blank and does not end an array.  So the reader, which
looks for the end of an array in front of its first item, takes it for an item. -/
theorem write_eq_cons (layout : Layout) (depth : Nat) {v : Json} (h : v.isIntegral = true) :
    ∃ c cs, v.write layout depth = c :: cs ∧ isSpace c = false ∧ c ≠ ']' := by
  cases v with
  | null => exact ⟨'n', ['u', 'l', 'l'], by simp [write], rfl, by decide⟩
  | bool b =>
    cases b with
    | false => exact ⟨'f', ['a', 'l', 's', 'e'], by simp [write], rfl, by decide⟩
    | true => exact ⟨'t', ['r', 'u', 'e'], by simp [write], rfl, by decide⟩
  | int i =>
    obtain ⟨c, cs, hcs⟩ := List.exists_cons_of_ne_nil (Text.integerDigits_ne_nil i)
    refine ⟨c, cs, by rw [write, hcs], ?_⟩
    rcases Text.minus_or_isDigit_of_mem_integerDigits (hcs ▸ List.mem_cons_self) with rfl | hc
    · exact ⟨rfl, by decide⟩
    · exact ⟨isSpace_of_isDigit hc, by rintro rfl; exact absurd hc (by decide)⟩
  | decimal lexeme => rw [isIntegral] at h; nomatch h
  | str s => exact ⟨'"', (literal s).tail, by rw [write]; exact literal_eq_cons s, rfl, by decide⟩
  | arr items =>
    cases items with
    | nil => exact ⟨'[', [']'], by simp [write], rfl, by decide⟩
    | cons v vs => exact ⟨'[', _, by rw [write]; rfl, rfl, by decide⟩
  | obj fields =>
    cases fields with
    | nil => exact ⟨'{', ['}'], by simp [write], rfl, by decide⟩
    | cons f fs => exact ⟨'{', _, by rw [write]; rfl, rfl, by decide⟩

/-- So do the items of an array begin, behind the blanks of the layout. -/
theorem writeItems_eq_append (layout : Layout) (depth : Nat) {v : Json} (vs : List Json)
    (h : v.isIntegral = true) : ∃ c cs, writeItems layout depth (v :: vs) =
      layout.line depth ++ c :: cs ∧ isSpace c = false ∧ c ≠ ']' := by
  obtain ⟨c, cs, hcs, hc⟩ := write_eq_cons layout depth h
  refine ⟨c, cs ++ if vs.isEmpty then [] else ',' :: writeItems layout depth vs, ?_, hc⟩
  rw [writeItems, hcs, List.append_assoc, List.cons_append]

/-- The fields of an object begin with the quote of a key. -/
theorem writeFields_eq_append (layout : Layout) (depth : Nat) (f : Option String × Json)
    (fs : List (Option String × Json)) : ∃ cs, writeFields layout depth (f :: fs) =
      layout.line depth ++ '"' :: cs := by
  obtain ⟨key, v⟩ := f
  rw [writeFields, literal_eq_cons]
  simp only [List.append_assoc, List.cons_append]
  exact ⟨_, rfl⟩

/-! ## Values -/

section

variable {layout : Layout}

/-- The end of an array, whose items have all been read. -/
theorem run?_closeItems (hl : layout.IsBlank) (depth : Nat) (vs : List Json) (opened : List Frame)
    (rest : List Char) :
    run? ⟨.items vs.reverse :: opened, .next⟩ (layout.line depth ++ ']' :: rest) =
      (deliver? (.arr vs) opened).bind (·.run? rest) := by
  rw [run?_blanks (fun d hd => by simp [step?, afterValue?, hd]) (hl.line depth), run?_cons_eq_bind]
  show (deliver? (.arr vs.reverse.reverse) opened).bind _ = _
  rw [List.reverse_reverse]

/-- The end of an object, whose fields have all been read. -/
theorem run?_closeFields (hl : layout.IsBlank) (depth : Nat) (fs : List (Option String × Json))
    (opened : List Frame) (rest : List Char) :
    run? ⟨.fields fs.reverse :: opened, .next⟩ (layout.line depth ++ '}' :: rest) =
      (deliver? (.obj fs) opened).bind (·.run? rest) := by
  rw [run?_blanks (fun d hd => by simp [step?, afterValue?, hd]) (hl.line depth), run?_cons_eq_bind]
  show (deliver? (.obj fs.reverse.reverse) opened).bind _ = _
  rw [List.reverse_reverse]

/-- The key of a field and its colon. -/
theorem run?_key (hl : layout.IsBlank) (depth : Nat) (done : List (Option String × Json))
    (outer : List Frame) (key : Option String) (rest : List Char) :
    run? ⟨.fields done :: outer, .key⟩
      (layout.line depth ++ (literal key ++ (layout.colon ++ rest))) =
      run? ⟨.field done key :: outer, .value⟩ rest := by
  obtain ⟨blanks, hcolon, hblanks⟩ := hl.colon
  rw [literal_eq_cons, List.cons_append, (run?_firstKey _ (hl.line depth) _).2,
    run?_literalTail, hcolon]
  show run? ⟨.field done key :: outer, .value⟩ (blanks ++ rest) = _
  exact run?_blanks (fun d hd => by simp [step?, hd]) hblanks rest

mutual

/-- **A value is read back from its text and delivered to the open containers**, whatever comes
after it; behind a number it must be something that ends the number.  The recursion is on the value,
together with its items and fields. -/
theorem run?_write (hl : layout.IsBlank) : ∀ (v : Json), v.isIntegral = true →
    ∀ (depth : Nat) (opened : List Frame) (rest : List Char),
    (∀ i, v = .int i → rest.head?.any endsNumber = true) →
    run? ⟨opened, .value⟩ (v.write layout depth ++ rest) =
      (deliver? v opened).bind (·.run? rest)
  | .null, _, depth, opened, rest, _ => by
    rw [write]
    exact run?_cons_eq_bind ⟨opened, .inWord ['l'] .null⟩ 'l' rest
  | .bool true, _, depth, opened, rest, _ => by
    rw [write]
    exact run?_cons_eq_bind ⟨opened, .inWord ['e'] (.bool true)⟩ 'e' rest
  | .bool false, _, depth, opened, rest, _ => by
    rw [write]
    exact run?_cons_eq_bind ⟨opened, .inWord ['e'] (.bool false)⟩ 'e' rest
  | .int i, _, depth, opened, rest, hrest => by
    rw [write]
    exact run?_integer opened i (hrest i rfl)
  | .decimal lexeme, h, _, _, _, _ => by
    rw [isIntegral] at h
    nomatch h
  | .str s, _, depth, opened, rest, _ => by
    rw [write, literal_eq_cons, List.cons_append]
    exact run?_literalTail opened false s rest
  | .arr [], _, depth, opened, rest, _ => by
    rw [write, List.isEmpty_nil, if_pos rfl]
    exact run?_cons_eq_bind ⟨.items [] :: opened, .firstItem⟩ ']' rest
  | .arr (v :: vs), h, depth, opened, rest, _ => by
    rw [isIntegral] at h
    have hv : v.isIntegral = true := by
      rw [itemsIntegral, Bool.and_eq_true] at h
      exact h.1
    have hend : (layout.line depth ++ ']' :: rest).head?.any endsNumber = true :=
      endsNumber_head_of_blanks (hl.line depth) rfl
    have hitems := run?_writeItems hl (v :: vs) (List.cons_ne_nil v vs) h (depth + 1) [] opened _
      hend
    obtain ⟨c, cs, hcs, hs, hc⟩ := writeItems_eq_append layout (depth + 1) vs hv
    rw [write, List.isEmpty_cons, if_neg Bool.false_ne_true, List.append_assoc, List.append_assoc,
      List.cons_append, List.singleton_append]
    -- the reader would take a closing bracket here, but no item begins with one
    show run? ⟨.items [] :: opened, .firstItem⟩ _ = _
    rw [hcs, List.append_assoc, List.cons_append] at hitems ⊢
    rw [run?_firstItem _ (hl.line (depth + 1)) hs hc, hitems, List.append_nil,
      run?_closeItems hl]
  | .obj [], _, depth, opened, rest, _ => by
    rw [write, List.isEmpty_nil, if_pos rfl]
    exact run?_cons_eq_bind ⟨.fields [] :: opened, .firstKey⟩ '}' rest
  | .obj (f :: fs), h, depth, opened, rest, _ => by
    rw [isIntegral] at h
    have hend : (layout.line depth ++ '}' :: rest).head?.any endsNumber = true :=
      endsNumber_head_of_blanks (hl.line depth) rfl
    have hfields := run?_writeFields hl (f :: fs) (List.cons_ne_nil f fs) h (depth + 1) [] opened _
      hend
    obtain ⟨cs, hcs⟩ := writeFields_eq_append layout (depth + 1) f fs
    rw [write, List.isEmpty_cons, if_neg Bool.false_ne_true, List.append_assoc, List.append_assoc,
      List.cons_append, List.singleton_append]
    show run? ⟨.fields [] :: opened, .firstKey⟩ _ = _
    rw [hcs, List.append_assoc, List.cons_append] at hfields ⊢
    rw [(run?_firstKey _ (hl.line (depth + 1)) _).1, ← (run?_firstKey _ (hl.line (depth + 1)) _).2,
      hfields, List.append_nil, run?_closeFields hl]

/-- The items of an array, one after the other, each delivered to the array that is open.  There is
at least one; an empty array has a case of its own. -/
theorem run?_writeItems (hl : layout.IsBlank) : ∀ (vs : List Json), vs ≠ [] →
    itemsIntegral vs = true →
    ∀ (depth : Nat) (done : List Json) (outer : List Frame) (rest : List Char),
    rest.head?.any endsNumber = true →
    run? ⟨.items done :: outer, .value⟩ (writeItems layout depth vs ++ rest) =
      run? ⟨.items (vs.reverse ++ done) :: outer, .next⟩ rest
  | [], hne, _, _, _, _, _, _ => absurd rfl hne
  | [v], _, h, depth, done, outer, rest, hrest => by
    rw [itemsIntegral, Bool.and_eq_true] at h
    rw [writeItems, List.isEmpty_nil, if_pos rfl, List.append_nil, List.append_assoc,
      run?_blanks (fun d hd => by simp [step?, hd]) (hl.line depth),
      run?_write hl v h.1 depth _ rest fun _ _ => hrest]
    rfl
  -- The first item ends at the comma in front of the second.
  | v :: w :: vs, _, h, depth, done, outer, rest, hrest => by
    rw [itemsIntegral, Bool.and_eq_true] at h
    have ih := run?_writeItems hl (w :: vs) (List.cons_ne_nil w vs) h.2 depth (v :: done) outer rest
      hrest
    rw [writeItems, List.isEmpty_cons, if_neg Bool.false_ne_true, List.append_assoc,
      List.append_assoc, run?_blanks (fun d hd => by simp [step?, hd]) (hl.line depth),
      List.cons_append, run?_write hl v h.1 depth _ _ fun _ _ => rfl]
    show run? ⟨.items (v :: done) :: outer, .value⟩ (writeItems layout depth (w :: vs) ++ rest) = _
    rw [ih, List.reverse_cons (a := v), List.append_assoc]
    rfl

/-- The fields of an object, one after the other: a key, a colon and a value. -/
theorem run?_writeFields (hl : layout.IsBlank) : ∀ (fs : List (Option String × Json)), fs ≠ [] →
    fieldsIntegral fs = true →
    ∀ (depth : Nat) (done : List (Option String × Json)) (outer : List Frame) (rest : List Char),
    rest.head?.any endsNumber = true →
    run? ⟨.fields done :: outer, .key⟩ (writeFields layout depth fs ++ rest) =
      run? ⟨.fields (fs.reverse ++ done) :: outer, .next⟩ rest
  | [], hne, _, _, _, _, _, _ => absurd rfl hne
  | [(key, v)], _, h, depth, done, outer, rest, hrest => by
    rw [fieldsIntegral, Bool.and_eq_true] at h
    rw [writeFields, List.isEmpty_nil, if_pos rfl, List.append_nil]
    simp only [List.append_assoc]
    rw [run?_key hl, run?_write hl v h.1 depth _ rest fun _ _ => hrest]
    rfl
  | (key, v) :: f :: fs, _, h, depth, done, outer, rest, hrest => by
    rw [fieldsIntegral, Bool.and_eq_true] at h
    have ih := run?_writeFields hl (f :: fs) (List.cons_ne_nil f fs) h.2 depth ((key, v) :: done)
      outer rest hrest
    rw [writeFields, List.isEmpty_cons, if_neg Bool.false_ne_true]
    simp only [List.append_assoc, List.cons_append]
    rw [run?_key hl, run?_write hl v h.1 depth _ _ fun _ _ => rfl]
    show run? ⟨.fields ((key, v) :: done) :: outer, .key⟩
      (writeFields layout depth (f :: fs) ++ rest) = _
    rw [ih, List.reverse_cons (a := (key, v)), List.append_assoc]
    rfl

end

/-! ## Whole texts -/

/-- **A text that was written from a value is read back as that value.** At the start nothing is
open, so the value that is delivered is the whole. -/
theorem read?_write (hl : layout.IsBlank) {v : Json} (h : v.isIntegral = true) (depth : Nat) :
    (start.run? (v.write layout depth)).bind finish? = some v := by
  -- a number at the end of a text has no character behind it that ends it
  by_cases hint : ∃ i, v = .int i
  · obtain ⟨i, rfl⟩ := hint
    obtain ⟨part, -, hvalue, hrun⟩ := run?_integerDigits i
    have hdone := hrun [] []
    rw [List.append_nil] at hdone
    rw [write]
    show (run? ⟨[], .value⟩ _).bind finish? = _
    rw [hdone]
    exact hvalue
  · have hrun := run?_write hl v h depth [] [] fun i hi => absurd ⟨i, hi⟩ hint
    rw [List.append_nil] at hrun
    show (run? ⟨[], .value⟩ _).bind finish? = _
    rw [hrun]
    rfl

end

/-- On one line, as records and bindings are written. -/
theorem read?_compact {v : Json} (h : v.isIntegral = true) : read? v.compact = some v := by
  rw [read?, compact, String.toList_ofList]
  exact read?_write compact_isBlank h 0

/-- On many lines, as trees and reports are written. -/
theorem read?_pretty {v : Json} (h : v.isIntegral = true) : read? v.pretty = some v := by
  rw [read?, pretty, String.toList_ofList]
  exact read?_write pretty_isBlank h 0

/-! ## Control characters -/

/-- Whether no character of a text is a control character. -/
def Printable (cs : List Char) : Prop :=
  ∀ c ∈ cs, 0x20 ≤ c.toNat

theorem printable_nil : Printable [] :=
  fun _ h => (List.not_mem_nil h).elim

/-- A fixed text is looked through once. -/
theorem printable_of_all {cs : List Char} (h : cs.all (0x20 ≤ ·.toNat) = true) : Printable cs := by
  intro c hc
  exact of_decide_eq_true (List.all_eq_true.mp h c hc)

theorem Printable.cons {c : Char} {cs : List Char} (hc : 0x20 ≤ c.toNat) (h : Printable cs) :
    Printable (c :: cs) := by
  intro d hd
  rcases List.mem_cons.mp hd with rfl | hd
  · exact hc
  · exact h d hd

/-- Printable texts in a row are printable. -/
theorem Printable.append {cs ds : List Char} (hcs : Printable cs) (hds : Printable ds) :
    Printable (cs ++ ds) := by
  intro d hd
  rcases List.mem_append.mp hd with hd | hd
  · exact hcs d hd
  · exact hds d hd

/-- However a character is written, nothing of it is a control character: these are written by
escapes. -/
theorem printable_escapeChar (c : Char) : Printable (escapeChar c) := by
  have hhex : ∀ n < 0x20, ('\\' :: 'u' :: Text.hexDigits 4 n).all (0x20 ≤ ·.toNat) = true := by decide
  unfold escapeChar
  split
  case h_8 =>
    split
    · rename_i hc
      exact printable_of_all (hhex c.toNat hc)
    · rename_i hc
      intro d hd
      rw [List.mem_singleton.mp hd]
      omega
  all_goals exact printable_of_all rfl

/-- A literal is printable whatever text it is made of. -/
theorem printable_literal (s : Option String) : Printable (literal s) := by
  cases s with
  | none =>
    exact printable_of_all rfl
  | some s =>
    have hescaped : Printable (s.toList.flatMap escapeChar) := by
      intro d hd
      obtain ⟨c, -, hc⟩ := List.mem_flatMap.mp hd
      exact printable_escapeChar c d hc
    exact (Printable.cons (by decide) hescaped).append (Printable.cons (by decide) printable_nil)

/-- Digits and a minus are printable. -/
theorem printable_integerDigits (i : Int) : Printable (Text.integerDigits i) := by
  intro c hc
  rcases Text.minus_or_isDigit_of_mem_integerDigits hc with rfl | hdigit
  · decide
  · rw [Char.isDigit, Bool.and_eq_true, decide_eq_true_eq] at hdigit
    have hlow : 48 ≤ c.toNat := hdigit.1
    omega

mutual

/-- The compact text of a value has no control character.  The layout adds none, and everything else
is literals, numbers and signs. -/
theorem printable_write : ∀ (v : Json), v.isIntegral = true → ∀ (depth : Nat),
    Printable (v.write .compact depth)
  | .null, _, depth => by
    rw [write]
    exact printable_of_all rfl
  | .bool true, _, depth => by
    rw [write]
    exact printable_of_all rfl
  | .bool false, _, depth => by
    rw [write]
    exact printable_of_all rfl
  | .int i, _, depth => by
    rw [write]
    exact printable_integerDigits i
  | .decimal lexeme, h, _ => by
    rw [isIntegral] at h
    nomatch h
  | .str s, _, depth => by
    rw [write]
    exact printable_literal s
  | .arr items, h, depth => by
    rw [isIntegral] at h
    have hitems := printable_writeItems items h (depth + 1)
    rw [write]
    split
    · exact Printable.cons (by decide) (Printable.cons (by decide) printable_nil)
    · exact ((Printable.cons (by decide) hitems).append printable_nil).append
        (Printable.cons (by decide) printable_nil)
  | .obj fields, h, depth => by
    rw [isIntegral] at h
    have hfields := printable_writeFields fields h (depth + 1)
    rw [write]
    split
    · exact Printable.cons (by decide) (Printable.cons (by decide) printable_nil)
    · exact ((Printable.cons (by decide) hfields).append printable_nil).append
        (Printable.cons (by decide) printable_nil)

/-- `printable_write` for the items of an array. -/
theorem printable_writeItems : ∀ (vs : List Json), itemsIntegral vs = true → ∀ (depth : Nat),
    Printable (writeItems .compact depth vs)
  | [], _, _ => printable_nil
  | v :: vs, h, depth => by
    rw [itemsIntegral, Bool.and_eq_true] at h
    have hv := printable_write v h.1 depth
    have hvs := printable_writeItems vs h.2 depth
    rw [writeItems]
    refine Printable.append (Printable.append printable_nil hv) ?_
    split
    · exact printable_nil
    · exact Printable.cons (by decide) hvs

/-- `printable_write` for the fields of an object. -/
theorem printable_writeFields : ∀ (fs : List (Option String × Json)), fieldsIntegral fs = true →
    ∀ (depth : Nat), Printable (writeFields .compact depth fs)
  | [], _, _ => printable_nil
  | (key, v) :: fs, h, depth => by
    rw [fieldsIntegral, Bool.and_eq_true] at h
    have hv := printable_write v h.1 depth
    have hfs := printable_writeFields fs h.2 depth
    have hcolon : Printable Layout.compact.colon := Printable.cons (by decide) printable_nil
    rw [writeFields]
    refine Printable.append ((Printable.append
      (Printable.append printable_nil (printable_literal key)) hcolon).append hv) ?_
    split
    · exact printable_nil
    · exact Printable.cons (by decide) hfs

end

/-- So it stands on one line, whatever the texts in the value are. -/
theorem printable_compact {v : Json} (h : v.isIntegral = true) : Printable v.compact.toList := by
  rw [compact, String.toList_ofList]
  exact printable_write v h 0

end RouteIndex.Json
