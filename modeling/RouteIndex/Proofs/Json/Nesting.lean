/-
  The bracket counter against the reader.

  `nestsDeeper` counts brackets with three variables and knows nothing of JSON; the reader keeps a
  stack of open containers and stops at the first character that is no JSON.  Both go over the same
  characters, so the comparison is a simulation in lockstep:

  1. **One step** — `Reader.Move` lists what a character can do to a reader as far as brackets and
     quotes are concerned, and `step?_move` says that every step is one of them.

  2. **Agreement** — `Agrees n r`: the count is the height of the stack, and the two Boolean
     variables say whether the reader is in a string literal and right after a backslash.  Every
     step keeps it (`Agrees.step`), and where the text is malformed the reader has stopped.

  3. **Reach** — `Reader.reach` is the deepest nesting among all that the reader holds, finished
     values included.  A step raises it to the height of the new stack and changes it in no other
     way (`Agrees.reach_step`).  At the end of a text the reach is the depth of the value, so the
     counter has seen exactly that depth.
-/

import RouteIndex.Json.Nesting
import RouteIndex.Json.Reader
import RouteIndex.Syntax.Tree

namespace RouteIndex.Json

/-! ## The counter, one character at a time -/

/-- A character that the counter passes over outside of string literals. -/
def isIdle (c : Char) : Bool :=
  c ≠ '"' && c ≠ '{' && c ≠ '[' && c ≠ '}' && c ≠ ']'

namespace Nesting

variable {n : Nesting} {c : Char}

/-- Outside of literals the counter looks at brackets and quotes only. -/
theorem step_idle (hout : n.inString = false) (hc : isIdle c = true) : n.step c = n := by
  simp only [isIdle, ne_eq, Bool.and_eq_true, decide_eq_true_eq] at hc
  obtain ⟨⟨⟨⟨hq, ho⟩, ho'⟩, hcl⟩, hcl'⟩ := hc
  simp [step, hout, hq, ho, ho', hcl, hcl']

/-- An opening bracket counts, whichever of the two it is. -/
theorem step_opening (hout : n.inString = false) (hc : c = '{' ∨ c = '[') :
    n.step c = { n with depth := n.depth + 1 } := by
  rcases hc with rfl | rfl <;> simp [step, hout]

/-- A closing bracket counts down.  The counter does not ask whether it closes the container that is
open; the reader does, and stops if not. -/
theorem step_closing (hout : n.inString = false) (hc : c = '}' ∨ c = ']') :
    n.step c = { n with depth := n.depth - 1 } := by
  rcases hc with rfl | rfl <;> simp [step, hout]

/-- Inside a literal everything is passed over but backslashes and quotes. -/
theorem step_plain (hin : n.inString = true) (hesc : n.escaped = false) (hb : c ≠ '\\')
    (hq : c ≠ '"') : n.step c = { n with escaped := false } := by
  obtain ⟨depth, inString, escaped⟩ := n
  obtain rfl : escaped = false := hesc
  obtain rfl : inString = true := hin
  simp [step, hb, hq]

theorem step_quote (hout : n.inString = false) : n.step '"' = { n with inString := true } := by
  simp [step, hout]

end Nesting

/-! ## The deepest nesting that a reader holds -/

/-- The depth of the deepest value that is finished in an open container. -/
def Frame.doneDepth : Frame → Nat
  | .items done => depthOfItems done
  | .fields done => depthOfFields done
  | .field done _ => depthOfFields done

/-- The deepest nesting among open containers and what they hold, innermost container first. -/
def reachOf : List Frame → Nat
  | [] => 0
  | f :: outer => max (outer.length + 1 + f.doneDepth) (reachOf outer)

/-- The depth of the value that a reader has in its hands. -/
def Expect.heldDepth : Expect → Nat
  | .done v => v.depth
  | .inWord _ v => v.depth
  | _ => 0

/-- The deepest nesting among all that a reader holds. -/
def Reader.reach (r : Reader) : Nat :=
  max (r.opened.length + r.expect.heldDepth) (reachOf r.opened)

/-- The reach is at least the height of the stack: an open container nests as deep as it stands,
even if nothing is in it yet. -/
theorem length_le_reachOf : ∀ opened : List Frame, opened.length ≤ reachOf opened
  | [] => Nat.le_refl 0
  | f :: outer => by
    have hf : outer.length + 1 ≤ outer.length + 1 + f.doneDepth := Nat.le_add_right _ _
    exact Nat.le_trans hf (Nat.le_max_left _ _)

/-- A reader without a value in its hands reaches as far as its open containers do. -/
theorem reach_of_held_eq_zero {r : Reader} (h : r.expect.heldDepth = 0) :
    r.reach = reachOf r.opened := by
  rw [Reader.reach, h, Nat.add_zero]
  exact Nat.max_eq_right (length_le_reachOf r.opened)

/-- The deepest item of two lists. -/
theorem depthOfItems_append (vs ws : List Json) :
    depthOfItems (vs ++ ws) = max (depthOfItems vs) (depthOfItems ws) := by
  induction vs with
  | nil => simp [depthOfItems]
  | cons v vs ih => simp only [List.cons_append, depthOfItems, ih, Nat.max_assoc]

/-- Items are kept backwards while their array is open, which does not change their depth. -/
theorem depthOfItems_reverse (vs : List Json) : depthOfItems vs.reverse = depthOfItems vs := by
  induction vs with
  | nil => rfl
  | cons v vs ih =>
    rw [List.reverse_cons, depthOfItems_append, ih]
    simp only [depthOfItems]
    omega

/-- The deepest field of two lists. -/
theorem depthOfFields_append (fs gs : List (Option String × Json)) :
    depthOfFields (fs ++ gs) = max (depthOfFields fs) (depthOfFields gs) := by
  induction fs with
  | nil => simp [depthOfFields]
  | cons f fs ih => simp only [List.cons_append, depthOfFields, ih, Nat.max_assoc]

/-- Fields are kept backwards in the same way. -/
theorem depthOfFields_reverse (fs : List (Option String × Json)) :
    depthOfFields fs.reverse = depthOfFields fs := by
  induction fs with
  | nil => rfl
  | cons f fs ih =>
    rw [List.reverse_cons, depthOfFields_append, ih]
    simp only [depthOfFields]
    omega

/-! ## What a character can do to a reader -/

/-- Outside of string literals, and with nothing but idle characters to come in a word. -/
def Expect.isOutside : Expect → Bool
  | .inString _ _ => false
  | .inWord rest _ => rest.all isIdle
  | _ => true

/-- A reader outside of string literals, with so many open containers and such a reach. -/
structure Reader.Rests (r : Reader) (size reach : Nat) : Prop where
  outside : r.expect.isOutside = true
  size_eq : r.opened.length = size
  reach_eq : r.reach = reach

/-- What a character does to a reader, as far as brackets and quotes are concerned. -/
inductive Reader.Move (r : Reader) (c : Char) (r' : Reader) : Prop where
  | idle (hc : isIdle c = true) (out : r.expect.isOutside = true)
      (h : r'.Rests r.opened.length r.reach)
  | opening (hc : c = '{' ∨ c = '[') (out : r.expect.isOutside = true)
      (h : r'.Rests (r.opened.length + 1) (max r.reach (r.opened.length + 1)))
  | closing (hc : c = '}' ∨ c = ']') (out : r.expect.isOutside = true) (size : Nat)
      (hsize : r.opened.length = size + 1) (h : r'.Rests size r.reach)
  | openQuote (hc : c = '"') (out : r.expect.isOutside = true) (isKey : Bool)
      (h : r' = ⟨r.opened, .inString isKey {}⟩) (held : r.expect.heldDepth = 0)
  | inLiteral (isKey : Bool) (lit lit' : Literal) (he : r.expect = .inString isKey lit)
      (hs : lit.step? c = some (.inl lit')) (h : r' = ⟨r.opened, .inString isKey lit'⟩)
  | closeQuote (isKey : Bool) (lit : Literal) (s : Option String)
      (he : r.expect = .inString isKey lit) (hs : lit.step? c = some (.inr s))
      (h : r'.Rests r.opened.length r.reach)

/-! ### The parts of a step -/

theorem isIdle_of_isSpace {c : Char} (h : Reader.isSpace c = true) : isIdle c = true := by
  simp only [Reader.isSpace, Bool.or_eq_true, decide_eq_true_eq] at h
  rcases h with ((rfl | rfl) | rfl) | rfl <;> rfl

theorem isIdle_of_isDigit {c : Char} (h : c.isDigit = true) : isIdle c = true := by
  simp only [isIdle, ne_eq, Bool.and_eq_true, decide_eq_true_eq]
  refine ⟨⟨⟨⟨?_, ?_⟩, ?_⟩, ?_⟩, ?_⟩ <;> rintro rfl <;> exact absurd h (by decide)

/-- A character that goes on with a number is a digit, a sign, a point or an e, and so the counter
passes over it. -/
theorem isIdle_of_next? {part part' : NumberPart} {c : Char} (h : part.next? c = some part') :
    isIdle c = true := by
  by_cases hd : c.isDigit = true
  · exact isIdle_of_isDigit hd
  · have hc : c = '0' ∨ c = '.' ∨ c = 'e' ∨ c = 'E' ∨ c = '+' ∨ c = '-' := by
      cases part <;> simp only [NumberPart.next?, hd] at h <;> grind
    rcases hc with rfl | rfl | rfl | rfl | rfl | rfl <;> rfl

/-- Numbers do not nest. -/
theorem depth_of_value? {part : NumberPart} {backwards : List Char} {v : Json}
    (h : part.value? backwards = some v) : v.depth = 0 := by
  -- only the two kinds of number are ever made
  have hint (lexeme : List Char) (h : (Text.readInteger? lexeme).map Json.int = some v) :
      v.depth = 0 := by
    obtain ⟨i, -, rfl⟩ := Option.map_eq_some_iff.mp h
    simp [depth]
  cases part with
  | zero | whole =>
    simp only [NumberPart.value?] at h
    split at h
    · obtain rfl := Option.some.inj h
      simp [depth]
    · exact hint _ h
  | fraction | exponent =>
    obtain rfl := Option.some.inj h
    simp [depth]
  | _ => nomatch h

/-- A delivered value counts where it is put: it stands inside all open containers, so their number
is added to its depth. -/
theorem deliver?_rests {v : Json} {opened : List Frame} {r' : Reader}
    (h : Reader.deliver? v opened = some r') :
    r'.Rests opened.length (max (opened.length + v.depth) (reachOf opened)) := by
  cases opened with
  | nil =>
    obtain rfl := Option.some.inj h
    exact ⟨rfl, rfl, rfl⟩
  | cons f outer =>
    -- A value goes into an array or behind a key; an object that waits for a key takes none.
    cases f with
    | items done =>
      obtain rfl := Option.some.inj h
      refine ⟨rfl, rfl, ?_⟩
      simp only [Reader.reach, Expect.heldDepth, List.length_cons, reachOf, Frame.doneDepth,
        depthOfItems]
      omega
    | field done key =>
      obtain rfl := Option.some.inj h
      refine ⟨rfl, rfl, ?_⟩
      simp only [Reader.reach, Expect.heldDepth, List.length_cons, reachOf, Frame.doneDepth,
        depthOfFields]
      omega
    | fields done => nomatch h

/-- A value that does not nest changes nothing where it is put. -/
theorem deliver?_rests_scalar {v : Json} (hv : v.depth = 0) {opened : List Frame} {r' : Reader}
    (h : Reader.deliver? v opened = some r') : r'.Rests opened.length (reachOf opened) := by
  have hr := deliver?_rests h
  rwa [hv, Nat.add_zero, Nat.max_eq_right (length_le_reachOf opened)] at hr

/-- Closing a container takes one off the stack and keeps the reach, for the container nests as deep
as it did when it was open. -/
theorem close?_rests {c : Char} {opened : List Frame} {r' : Reader}
    (h : Reader.close? c opened = some r') :
    (c = '}' ∨ c = ']') ∧ ∃ size, opened.length = size + 1 ∧ r'.Rests size (reachOf opened) := by
  cases opened with
  | nil => nomatch h
  | cons f outer =>
    cases f with
    | items done =>
      simp only [Reader.close?] at h
      split at h
      · rename_i hc
        refine ⟨Or.inr hc, outer.length, rfl, ?_⟩
        -- The closed container is a value of the frame below, one level less deep.
        have hr := deliver?_rests h
        rw [depth, depthOfItems_reverse] at hr
        rwa [reachOf, Frame.doneDepth, Nat.add_assoc, Nat.add_comm 1]
      · nomatch h
    | fields done =>
      simp only [Reader.close?] at h
      split at h
      · rename_i hc
        refine ⟨Or.inl hc, outer.length, rfl, ?_⟩
        have hr := deliver?_rests h
        rw [depth, depthOfFields_reverse] at hr
        rwa [reachOf, Frame.doneDepth, Nat.add_assoc, Nat.add_comm 1]
      · nomatch h
    | field done key => nomatch h

/-- A reader that keeps its stack and has no value in its hands makes a move that nobody counts. -/
theorem Reader.Move.of_same_stack {r r' : Reader} {c : Char} (hc : isIdle c = true)
    (hout : r.expect.isOutside = true) (hheld : r.expect.heldDepth = 0)
    (hopened : r'.opened = r.opened) (hout' : r'.expect.isOutside = true)
    (hheld' : r'.expect.heldDepth = 0) : r.Move c r' := by
  refine .idle hc hout ⟨hout', by rw [hopened], ?_⟩
  rw [reach_of_held_eq_zero hheld, reach_of_held_eq_zero hheld', hopened]

/-- A blank leaves a reader as it is. -/
theorem Reader.Move.of_space {r r' : Reader} {c : Char} (hc : Reader.isSpace c = true)
    (hout : r.expect.isOutside = true) (hheld : r.expect.heldDepth = 0) (h : some r = some r') :
    r.Move c r' := by
  obtain rfl := Option.some.inj h
  exact .of_same_stack (isIdle_of_isSpace hc) hout hheld rfl hout hheld

/-- The first character of a value opens a container or a literal, or begins a number or a word.
Only in the first two cases does the counter see anything. -/
theorem startValue?_move {r r' : Reader} {c : Char} (hout : r.expect.isOutside = true)
    (hheld : r.expect.heldDepth = 0) (h : Reader.startValue? r.opened c = some r') :
    r.Move c r' := by
  have hword (w : List Char) (b : Bool) : (Expect.inWord w (.bool b)).heldDepth = 0 := by
    simp [Expect.heldDepth, depth]
  have hnull (w : List Char) : (Expect.inWord w .null).heldDepth = 0 := by
    simp [Expect.heldDepth, depth]
  have hlen := length_le_reachOf r.opened
  unfold Reader.startValue? at h
  split at h
  -- The two openings are the only starts that grow the stack.
  case h_1 | h_2 =>
    obtain rfl := Option.some.inj h
    refine .opening (by simp) hout ⟨rfl, rfl, ?_⟩
    rw [reach_of_held_eq_zero hheld, reach_of_held_eq_zero rfl]
    simp only [reachOf, Frame.doneDepth, depthOfFields, depthOfItems]
    omega
  case h_3 => exact .openQuote rfl hout false (Option.some.inj h).symm hheld
  case h_4 | h_5 =>
    obtain rfl := Option.some.inj h
    exact .of_same_stack rfl hout hheld rfl rfl (hword _ _)
  case h_6 =>
    obtain rfl := Option.some.inj h
    exact .of_same_stack rfl hout hheld rfl rfl (hnull _)
  case h_7 | h_8 =>
    obtain rfl := Option.some.inj h
    exact .of_same_stack rfl hout hheld rfl rfl rfl
  case h_9 =>
    split at h
    · rename_i hd
      obtain rfl := Option.some.inj h
      exact .of_same_stack (isIdle_of_isDigit hd) hout hheld rfl rfl rfl
    · nomatch h

/-- A character after a finished value, which the reader may still have in its hands: nothing
happens, or the innermost container is closed. -/
theorem afterValue?_rests {r r' : Reader} {c : Char} (hout : r.expect.isOutside = true)
    (h : r.afterValue? c = some r') :
    (isIdle c = true ∧ r'.Rests r.opened.length r.reach) ∨
    ((c = '}' ∨ c = ']') ∧ ∃ size, r.opened.length = size + 1 ∧ r'.Rests size r.reach) := by
  unfold Reader.afterValue? at h
  split at h
  · rename_i hs
    obtain rfl := Option.some.inj h
    exact Or.inl ⟨isIdle_of_isSpace hs, hout, rfl, rfl⟩
  · split at h
    · rename_i hnext
      have hreach : r.reach = reachOf r.opened := reach_of_held_eq_zero (by rw [hnext]; rfl)
      split at h
      · rename_i hc
        subst hc
        split at h
        -- A comma keeps the frame open and holds nothing of its own.
        case h_1 | h_2 =>
          rename_i hopened
          obtain rfl := Option.some.inj h
          refine Or.inl ⟨rfl, rfl, by rw [hopened], ?_⟩
          rw [hreach, hopened]
          exact reach_of_held_eq_zero rfl
        case h_3 => nomatch h
      · rw [hreach]
        exact Or.inr (close?_rests h)
    · nomatch h

/-- A finished string literal rests where it is delivered, or as the key of a field. -/
theorem closeString?_rests {opened : List Frame} {isKey : Bool} {s : Option String} {r' : Reader}
    (h : Reader.closeString? opened isKey s = some r') :
    r'.Rests opened.length (reachOf opened) := by
  unfold Reader.closeString? at h
  split at h
  · split at h
    · obtain rfl := Option.some.inj h
      exact ⟨rfl, rfl, reach_of_held_eq_zero rfl⟩
    · nomatch h
  · exact deliver?_rests_scalar (by simp [depth]) h

/-- After a number, which ends before the character.  The character then does what it does behind
any value, so a number and a bracket can come at once. -/
theorem afterNumber_move {r r' : Reader} {v : Json} {c : Char} (hout : r.expect.isOutside = true)
    (hheld : r.expect.heldDepth = 0) (hv : v.depth = 0)
    (h : (Reader.deliver? v r.opened).bind (·.afterValue? c) = some r') : r.Move c r' := by
  obtain ⟨after, hd, ha⟩ := Option.bind_eq_some_iff.mp h
  have hr := deliver?_rests_scalar hv hd
  rw [← reach_of_held_eq_zero hheld] at hr
  rcases afterValue?_rests hr.outside ha with ⟨hc, h'⟩ | ⟨hc, size, hsize, h'⟩
  · rw [hr.size_eq, hr.reach_eq] at h'
    exact .idle hc hout h'
  · rw [hr.size_eq] at hsize
    rw [hr.reach_eq] at h'
    exact .closing hc hout size hsize h'

/-! ### The whole step -/

/-- **Every step of a reader is one of the moves.** The cases are what the reader expects; for each
of them, the characters that it takes are looked through. -/
theorem step?_move {r r' : Reader} {c : Char} (h : r.step? c = some r')
    (hword : ∀ rest v, r.expect = .inWord rest v → rest.all isIdle = true) : r.Move c r' := by
  obtain ⟨opened, expect⟩ := r
  -- one case for each thing that may come next; in most of them blanks are passed over first
  cases expect with
  | value =>
    simp only [Reader.step?] at h
    split at h
    · rename_i hs
      exact .of_space hs rfl rfl h
    · exact startValue?_move rfl rfl h
  | firstItem =>
    simp only [Reader.step?] at h
    split at h
    · rename_i hs
      exact .of_space hs rfl rfl h
    · split at h
      · obtain ⟨hc, size, hsize, hr⟩ := close?_rests h
        exact .closing hc rfl size hsize (by rwa [reach_of_held_eq_zero rfl])
      · exact startValue?_move rfl rfl h
  | firstKey =>
    simp only [Reader.step?] at h
    split at h
    · rename_i hs
      exact .of_space hs rfl rfl h
    · split at h
      · obtain ⟨hc, size, hsize, hr⟩ := close?_rests h
        exact .closing hc rfl size hsize (by rwa [reach_of_held_eq_zero rfl])
      · split at h
        · rename_i hq
          exact .openQuote hq rfl true (Option.some.inj h).symm rfl
        · cases h
  | key =>
    simp only [Reader.step?] at h
    split at h
    · rename_i hs
      exact .of_space hs rfl rfl h
    · split at h
      · rename_i hq
        exact .openQuote hq rfl true (Option.some.inj h).symm rfl
      · cases h
  | colon =>
    simp only [Reader.step?] at h
    split at h
    · rename_i hs
      exact .of_space hs rfl rfl h
    · split at h
      · rename_i hc
        subst hc
        obtain rfl := Option.some.inj h
        exact .of_same_stack rfl rfl rfl rfl rfl rfl
      · cases h
  | next | done =>
    rcases afterValue?_rests rfl h with ⟨hc, h'⟩ | ⟨hc, size, hsize, h'⟩
    · exact .idle hc rfl h'
    · exact .closing hc rfl size hsize h'
  | inString isKey lit =>
    simp only [Reader.step?] at h
    split at h
    · rename_i lit' hs
      exact .inLiteral isKey lit lit' rfl hs (Option.some.inj h).symm
    · rename_i s hs
      have hr := closeString?_rests h
      exact .closeQuote isKey lit s rfl hs (by rwa [reach_of_held_eq_zero rfl])
    · cases h
  | inNumber part backwards =>
    simp only [Reader.step?] at h
    split at h
    · rename_i part' hp
      obtain rfl := Option.some.inj h
      exact .of_same_stack (isIdle_of_next? hp) rfl rfl rfl rfl rfl
    · obtain ⟨v, hv, h⟩ := Option.bind_eq_some_iff.mp h
      exact afterNumber_move rfl rfl (depth_of_value? hv) h
  | inWord rest v =>
    have hidle := hword rest v rfl
    cases rest with
    | nil =>
      have hnone : none = some r' := h
      cases hnone
    | cons d rest =>
      rw [List.all_cons, Bool.and_eq_true] at hidle
      simp only [Reader.step?] at h
      split at h
      · rename_i hc
        subst hc
        have hout : (Expect.inWord (c :: rest) v).isOutside = true := by
          simpa [Expect.isOutside] using hidle
        split at h
        · exact .idle hidle.1 hout (deliver?_rests h)
        · obtain rfl := Option.some.inj h
          exact .idle hidle.1 hout ⟨hidle.2, rfl, rfl⟩
      · cases h

/-! ## The simulation -/

/-- Whether the last character of a literal was a backslash that escapes the next one. -/
def Literal.isEscaped (lit : Literal) : Bool :=
  match lit.escape with
  | .backslash => true
  | _ => false

/-- The count is the height of the stack, and both are outside of a string literal or both in one,
at the same place of it. -/
structure Agrees (n : Nesting) (r : Reader) : Prop where
  depth_eq : n.depth = r.opened.length
  place : (r.expect.isOutside = true ∧ n.inString = false ∧ n.escaped = false) ∨
    ∃ isKey lit, r.expect = .inString isKey lit ∧ n.inString = true ∧ n.escaped = lit.isEscaped

/-- At the start nothing is open on either side. -/
theorem agrees_start : Agrees {} Reader.start :=
  ⟨rfl, Or.inl ⟨rfl, rfl, rfl⟩⟩

/-- The rest of a word has letters only, so neither brackets nor quotes are in it. -/
theorem Agrees.wordIsIdle {n : Nesting} {r : Reader} (h : Agrees n r) {rest : List Char} {v : Json}
    (he : r.expect = .inWord rest v) : rest.all isIdle = true := by
  rcases h.place with ⟨hout, -, -⟩ | ⟨isKey, lit, he', -, -⟩
  · rwa [he] at hout
  · rw [he] at he'
    nomatch he'

/-- Outside of a literal the counter is outside as well.  So it counts the brackets that the reader
takes for brackets. -/
theorem Agrees.counter_outside {n : Nesting} {r : Reader} (h : Agrees n r)
    (hout : r.expect.isOutside = true) : n.inString = false ∧ n.escaped = false := by
  rcases h.place with ⟨-, hn⟩ | ⟨isKey, lit, he, -⟩
  · exact hn
  · rw [he] at hout
    nomatch hout

/-- In a literal the counter is at the same place of it. -/
theorem Agrees.counter_inLiteral {n : Nesting} {r : Reader} (h : Agrees n r) {isKey : Bool}
    {lit : Literal} (he : r.expect = .inString isKey lit) :
    n.inString = true ∧ n.escaped = lit.isEscaped := by
  rcases h.place with ⟨hout, -⟩ | ⟨isKey', lit', he', hn⟩
  · rw [he] at hout
    nomatch hout
  · rw [he] at he'
    obtain ⟨rfl, rfl⟩ := Expect.inString.inj he'
    exact hn

theorem Literal.isEscaped_push (lit : Literal) (c : Char) : (lit.push c).isEscaped = false :=
  rfl

/-- A character that has been pushed is no backslash any more, even if it was written by one. -/
theorem Literal.isEscaped_pushUnit (lit : Literal) (n : Nat) :
    (lit.pushUnit n).isEscaped = false := by
  simp only [pushUnit]
  split
  · split <;> rfl
  · split
    · rfl
    · split <;> rfl

/-- A literal that goes on: the counter stays in it, and is right after an escaping backslash when
the reader is.  The digits of an escape are passed over by both. -/
theorem step_of_goesOn {n : Nesting} {lit lit' : Literal} {c : Char} (hin : n.inString = true)
    (hesc : n.escaped = lit.isEscaped) (h : lit.step? c = some (.inl lit')) :
    n.step c = { n with escaped := lit'.isEscaped } := by
  obtain ⟨text, high, escape⟩ := lit
  cases escape with
  | none =>
    have hesc' : n.escaped = false := hesc
    simp only [Literal.step?] at h
    split at h
    · nomatch h
    · rename_i hq
      split at h
      · rename_i hb
        obtain rfl := Sum.inl.inj (Option.some.inj h)
        simp only [Nesting.step, hin, hesc', hb, if_true]
        rfl
      · rename_i hb
        split at h
        · nomatch h
        · obtain rfl := Sum.inl.inj (Option.some.inj h)
          rw [Nesting.step_plain hin hesc' hb hq, Literal.isEscaped_push]
  | backslash =>
    have hesc' : n.escaped = true := hesc
    have hlit : lit'.isEscaped = false := by
      simp only [Literal.step?] at h
      split at h
      · obtain rfl := Sum.inl.inj (Option.some.inj h)
        rfl
      · obtain ⟨d, -, hd⟩ := Option.map_eq_some_iff.mp h
        obtain rfl := Sum.inl.inj hd
        rfl
    simp only [Nesting.step, hin, hesc', hlit, if_true]
  | hex left value =>
    have hesc' : n.escaped = false := hesc
    obtain ⟨d, hd, hlit⟩ := Option.map_eq_some_iff.mp h
    have hlit' : lit'.isEscaped = false := by
      split at hlit
      · obtain rfl := Sum.inl.inj hlit
        exact Literal.isEscaped_pushUnit _ _
      · obtain rfl := Sum.inl.inj hlit
        rfl
    -- neither a backslash nor a quote is a hexadecimal digit
    have hb : c ≠ '\\' := by rintro rfl; nomatch hd
    have hq : c ≠ '"' := by rintro rfl; nomatch hd
    rw [Nesting.step_plain hin hesc' hb hq, hlit']

/-- A literal ends at the same quote for both.  The reader and the counter keep track of escapes in
two ways, and a quote behind a backslash ends the literal for neither of them. -/
theorem step_of_closes {n : Nesting} {lit : Literal} {c : Char} {s : Option String}
    (hin : n.inString = true) (hesc : n.escaped = lit.isEscaped)
    (h : lit.step? c = some (.inr s)) :
    n.step c = { n with inString := false } ∧ n.escaped = false := by
  obtain ⟨text, high, escape⟩ := lit
  -- Only a quote that is not escaped ends a literal, so there is no escape under way.
  cases escape with
  | none =>
    have hesc' : n.escaped = false := hesc
    simp only [Literal.step?] at h
    split at h
    · rename_i hq
      subst hq
      exact ⟨by simp [Nesting.step, hin, hesc'], hesc'⟩
    · split at h
      · nomatch h
      · split at h
        · nomatch h
        · nomatch h
  | backslash =>
    simp only [Literal.step?] at h
    split at h
    · nomatch h
    · obtain ⟨d, -, hd⟩ := Option.map_eq_some_iff.mp h
      nomatch hd
  | hex left value =>
    obtain ⟨d, -, hd⟩ := Option.map_eq_some_iff.mp h
    split at hd
    · nomatch hd
    · nomatch hd

/-- **The simulation, one step.** A move of the reader keeps the agreement with the counter.
Nothing is said where the reader stops, for the text is malformed there. -/
theorem Agrees.step {n : Nesting} {r r' : Reader} {c : Char} (ha : Agrees n r)
    (h : r.step? c = some r') : Agrees (n.step c) r' := by
  -- One case for each move of the reader; outside a literal the counter sees the same character.
  cases step?_move h (fun _ _ he => ha.wordIsIdle he) with
  | idle hc out h' =>
    obtain ⟨hin, hesc⟩ := ha.counter_outside out
    rw [Nesting.step_idle hin hc]
    exact ⟨by rw [h'.size_eq, ha.depth_eq], Or.inl ⟨h'.outside, hin, hesc⟩⟩
  | opening hc out h' =>
    obtain ⟨hin, hesc⟩ := ha.counter_outside out
    rw [Nesting.step_opening hin hc]
    exact ⟨by rw [h'.size_eq, ha.depth_eq], Or.inl ⟨h'.outside, hin, hesc⟩⟩
  | closing hc out size hsize h' =>
    obtain ⟨hin, hesc⟩ := ha.counter_outside out
    rw [Nesting.step_closing hin hc]
    refine ⟨?_, Or.inl ⟨h'.outside, hin, hesc⟩⟩
    show n.depth - 1 = r'.opened.length
    rw [h'.size_eq, ha.depth_eq, hsize, Nat.add_sub_cancel]
  | openQuote hc out isKey h' held =>
    obtain ⟨hin, hesc⟩ := ha.counter_outside out
    rw [hc, Nesting.step_quote hin, h']
    exact ⟨ha.depth_eq, Or.inr ⟨isKey, {}, rfl, rfl, hesc⟩⟩
  | inLiteral isKey lit lit' he hs h' =>
    obtain ⟨hin, hesc⟩ := ha.counter_inLiteral he
    rw [step_of_goesOn hin hesc hs, h']
    exact ⟨ha.depth_eq, Or.inr ⟨isKey, lit', rfl, hin, rfl⟩⟩
  | closeQuote isKey lit s he hs h' =>
    obtain ⟨hin, hesc⟩ := ha.counter_inLiteral he
    obtain ⟨hstep, hesc'⟩ := step_of_closes hin hesc hs
    rw [hstep]
    exact ⟨by rw [h'.size_eq]; exact ha.depth_eq, Or.inl ⟨h'.outside, rfl, hesc'⟩⟩

/-- **The reach, one step.**  Whatever the reader does, its reach grows to the height of the new
stack and in no other way. -/
theorem Agrees.reach_step {n : Nesting} {r r' : Reader} {c : Char} (ha : Agrees n r)
    (h : r.step? c = some r') : r'.reach = max r.reach r'.opened.length := by
  have hlen : r.opened.length ≤ r.reach :=
    Nat.le_trans (length_le_reachOf r.opened) (Nat.le_max_right _ _)
  -- only an opening bracket can make the stack higher than all that is held
  cases step?_move h (fun _ _ he => ha.wordIsIdle he) with
  | idle hc out h' | closeQuote _ _ _ _ _ h' =>
    rw [h'.reach_eq, h'.size_eq, Nat.max_eq_left hlen]
  | opening hc out h' => rw [h'.reach_eq, h'.size_eq]
  | closing hc out size hsize h' => rw [h'.reach_eq, h'.size_eq, Nat.max_eq_left (by omega)]
  | openQuote hc out isKey h' held =>
    rw [h', reach_of_held_eq_zero held, reach_of_held_eq_zero rfl]
    exact (Nat.max_eq_left (length_le_reachOf r.opened)).symm
  | inLiteral isKey lit lit' he hs h' =>
    rw [h', reach_of_held_eq_zero (r := r) (by rw [he]; rfl), reach_of_held_eq_zero rfl]
    exact (Nat.max_eq_left (length_le_reachOf r.opened)).symm

/-! ## Whole texts -/

/-- A count that has gone above the bound is not taken back by what follows. -/
theorem exceeds_append_of_exceeds {max : Nat} {pre : List Char} (rest : List Char) :
    ∀ {n : Nesting}, n.exceeds max pre = true → n.exceeds max (pre ++ rest) = true := by
  induction pre with
  | nil =>
    intro n h
    nomatch h
  | cons c pre ih =>
    intro n h
    simp only [List.cons_append, Nesting.exceeds, Bool.or_eq_true] at h ⊢
    exact h.imp id ih

/-- The reach never shrinks, by induction over the characters. -/
theorem Agrees.reach_le_of_run {cs : List Char} : ∀ {n : Nesting} {r r' : Reader}, Agrees n r →
    r.run? cs = some r' → r.reach ≤ r'.reach := by
  induction cs with
  | nil =>
    intro n r r' _ h
    obtain rfl := Option.some.inj h
    exact Nat.le_refl _
  | cons c cs ih =>
    intro n r r' ha h
    simp only [Reader.run?] at h
    split at h
    · rename_i next hs
      -- One step only adds to what was reached.
      have hnext : r.reach ≤ next.reach := by
        rw [ha.reach_step hs]
        exact Nat.le_max_left _ _
      exact Nat.le_trans hnext (ih (ha.step hs) h)
    · nomatch h

/-- **The count goes above a bound exactly when the reach does**, as far as the reader comes.  By
induction over the characters, with both of them left open. -/
theorem Agrees.exceeds_iff_reach {max : Nat} {cs : List Char} : ∀ {n : Nesting} {r r' : Reader},
    Agrees n r → r.reach ≤ max → r.run? cs = some r' →
    (n.exceeds max cs = true ↔ max < r'.reach) := by
  induction cs with
  | nil =>
    intro n r r' _ hmax h
    obtain rfl := Option.some.inj h
    simp only [Nesting.exceeds, Bool.false_eq_true, false_iff]
    omega
  | cons c cs ih =>
    intro n r r' ha hmax h
    simp only [Reader.run?] at h
    split at h
    · rename_i next hs
      have ha' := ha.step hs
      have hreach := ha.reach_step hs
      have hle := ha'.reach_le_of_run h
      simp only [Nesting.exceeds, Bool.or_eq_true, decide_eq_true_eq]
      rw [ha'.depth_eq]
      -- once the count is above the bound, the reach stays there
      by_cases hlt : max < next.opened.length
      · exact iff_of_true (Or.inl hlt) (by omega)
      · rw [or_iff_right hlt]
        exact ih ha' (by omega) h
    · nomatch h

/-- At the start nothing nests. -/
theorem reach_start_le (max : Nat) : Reader.start.reach ≤ max :=
  Nat.zero_le max

/-- The reach at the end of a text is the depth of its value. -/
theorem reach_of_finish? {r : Reader} {v : Json} (h : r.finish? = some v) : r.reach = v.depth := by
  obtain ⟨opened, expect⟩ := r
  simp only [Reader.finish?] at h
  split at h
  · obtain rfl := Option.some.inj h
    simp [Reader.reach, Expect.heldDepth, reachOf]
  · rw [depth_of_value? h]
    rfl
  · nomatch h

/-- As long as the counter stays below a bound, so does the number of open containers, wherever the
reader stops.  The text may be malformed behind that place, or at it. -/
theorem opened_le_of_not_nestsDeeper {max : Nat} {s : String} (h : nestsDeeper max s = false)
    {pre : List Char} (hpre : pre <+: s.toList) {r : Reader} (hr : Reader.start.run? pre = some r) :
    r.opened.length ≤ max := by
  obtain ⟨rest, hrest⟩ := hpre
  have hreach : ¬ max < r.reach := by
    intro hlt
    have hex := (agrees_start.exceeds_iff_reach (reach_start_le max) hr).mpr hlt
    have hs := exceeds_append_of_exceeds rest hex
    rw [hrest] at hs
    exact Bool.false_ne_true (h.symm.trans hs)
  have hlen : r.opened.length ≤ r.reach :=
    Nat.le_trans (length_le_reachOf r.opened) (Nat.le_max_right _ _)
  omega

/-- On well-formed text the counter says exactly how deep the value nests. -/
theorem nestsDeeper_iff_of_read? {s : String} {v : Json} (h : read? s = some v) (max : Nat) :
    nestsDeeper max s = true ↔ max < v.depth := by
  obtain ⟨r, hr, hf⟩ := Option.bind_eq_some_iff.mp h
  rw [← reach_of_finish? hf]
  exact agrees_start.exceeds_iff_reach (reach_start_le max) hr

/-! ## The guard -/

/-- **The guard bounds the reader on every text.**  If the counter does not go above `max`, then no
beginning of the text leaves the reader with more than `max` open containers, be the text JSON or
not; on JSON the counter goes above `max` exactly if the value nests deeper.  So whenever a tree is
read at all, the reader never holds more than 512 containers open. -/
theorem nestsDeeper_bounds_reader (s : String) (max : Nat) :
    (nestsDeeper max s = false → ∀ pre r, pre <+: s.toList → Reader.start.run? pre = some r →
      r.opened.length ≤ max) ∧
    (∀ v, read? s = some v → (nestsDeeper max s = true ↔ max < v.depth)) ∧
    (Syntax.Tree.ofText s ≠ .error .tooDeep → ∀ pre r, pre <+: s.toList →
      Reader.start.run? pre = some r → r.opened.length ≤ 512) := by
  refine ⟨fun h pre r hpre hr => opened_le_of_not_nestsDeeper h hpre hr,
    fun v hv => nestsDeeper_iff_of_read? hv max, fun h pre r hpre hr => ?_⟩
  have hguard : nestsDeeper Syntax.Tree.maxNesting s = false := by
    rw [← Bool.not_eq_true]
    intro hdeep
    exact h (by simp [Syntax.Tree.ofText, hdeep])
  exact opened_le_of_not_nestsDeeper hguard hpre hr

/-- Brackets and an escaped quote in a string of a text that is cut off: two containers are open. -/
theorem nestsDeeper_bounds_reader_in_string :
    nestsDeeper 2 "\x7b\"x\":[\"\\\"[[" = false ∧
    Reader.start.run? "\x7b\"x\":[\"\\\"[[".toList =
      some ⟨[.items [], .field [] (some "x")], .inString false ⟨some ['[', '[', '"'], none, .none⟩⟩ ∧
    [Frame.items [], .field [] (some "x")].length ≤ 2 :=
  have hcount : nestsDeeper 2 "\x7b\"x\":[\"\\\"[[" = false := by decide
  have hrun : Reader.start.run? "\x7b\"x\":[\"\\\"[[".toList =
      some ⟨[.items [], .field [] (some "x")], .inString false ⟨some ['[', '[', '"'], none, .none⟩⟩ :=
    rfl
  ⟨hcount, hrun, (nestsDeeper_bounds_reader _ 2).1 hcount _ _ (List.prefix_refl _) hrun⟩

end RouteIndex.Json
