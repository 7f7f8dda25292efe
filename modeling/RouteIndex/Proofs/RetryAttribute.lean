/-
  Retry attributes, and what a declaration asks for by them.

  The first of its attributes that is a retry attribute decides, whatever stands before or behind it.

  1. **Attributes** — a retry attribute is written with its name, with or without an ending.  The
     reading takes the ending off before it compares (`ofNode?_eq_some_iff`).
  2. **Arguments** — an attribute passes on what its first list of arguments holds
     (`Node.PassesOn`); they have to be literals, and `Gives` says of which shape, with one
     constructor for each attribute (`policy?_eq_some_iff`).
  3. **Declarations** — `Asks` says what a declaration asks for without the order in which its
     children are read; it is what the reading gives (`asks_iff`).
  4. **`policyOfDeclaration_by_first_attribute`** — so the attribute gives a policy if its arguments
     are of the shape, and is the error itself if they are not.
-/

import RouteIndex.Proofs.Registrations
import RouteIndex.Proofs.Text.Digits
import RouteIndex.RetryAttribute

namespace RouteIndex

open Syntax

/-! ## Arguments -/

/-- What an attribute passes on: the first child of each argument in its first list of arguments, or
the argument itself if it has no child.  Without a list it passes on nothing. -/
inductive Syntax.Node.PassesOn (n : Node) : List Node → Prop where
  | nothing (hnone : ∀ c ∈ n.children, c.kind ≠ .argumentList) : PassesOn n []
  | list {before after : List Node} {list : Node} (hchildren : n.children = before ++ list :: after)
      (hbefore : ∀ c ∈ before, c.kind ≠ .argumentList) (hlist : list.kind = .argumentList) :
      PassesOn n ((list.children.filter (·.kind = .argument)).map fun argument =>
        argument.children.headD argument)

/-- What a list of arguments holds, told without the functions that read it. -/
theorem Syntax.Node.expressions_eq (list : Node) : list.expressions =
    (list.children.filter (·.kind = .argument)).map fun argument =>
      argument.children.headD argument :=
  List.map_congr_left fun argument _ => argument.expression_eq_headD

/-- A node has no children of a kind exactly if no child is of that kind. -/
theorem Syntax.Node.childrenOfKind_eq_nil_iff {n : Node} {k : Kind} :
    n.childrenOfKind k = [] ↔ ∀ c ∈ n.children, c.kind ≠ k := by
  rw [childrenOfKind, List.filter_eq_nil_iff]
  simp only [decide_eq_true_eq, ne_eq]

/-- **The arguments that are read are those that the attribute passes on.** The list that counts is
the first one, and what stands in front of it are children of other kinds. -/
theorem Syntax.Node.passesOn_iff {n : Node} {arguments : List Node} :
    n.PassesOn arguments ↔ n.attributeArguments = arguments := by
  unfold attributeArguments
  constructor
  · intro h
    cases h with
    | nothing hnone => rw [childrenOfKind_eq_nil_iff.mpr hnone]
    | @list before after list hchildren hbefore hlist =>
      have hfilter : n.childrenOfKind .argumentList =
          list :: after.filter (·.kind = .argumentList) := by
        -- Only the first list of arguments counts, so those before it are filtered out and those
        -- behind it are dropped.
        have hnone : before.filter (·.kind = .argumentList) = [] :=
          List.filter_eq_nil_iff.mpr fun c hc hkind => hbefore c hc (of_decide_eq_true hkind)
        rw [childrenOfKind, hchildren, List.filter_append, hnone,
          List.filter_cons_of_pos (by simp only [hlist, decide_true]), List.nil_append]
      rw [hfilter]
      exact list.expressions_eq
  · rintro rfl
    cases hlists : n.childrenOfKind .argumentList with
    | nil => exact .nothing (childrenOfKind_eq_nil_iff.mp hlists)
    | cons list lists =>
      obtain ⟨before, after, hchildren, hbefore, hlist, -⟩ := List.filter_eq_cons_iff.mp hlists
      have hbefore : ∀ c ∈ before, c.kind ≠ .argumentList := fun c hc hkind =>
        hbefore c hc (decide_eq_true hkind)
      show n.PassesOn list.expressions
      rw [list.expressions_eq]
      exact .list hchildren hbefore (of_decide_eq_true hlist)

namespace RetryAttribute

/-! ## Attributes -/

/-- A node is this retry attribute. -/
structure IsWritten (a : RetryAttribute) (n : Node) : Prop where
  kind : n.kind = .attribute
  text : n.text = some a.name ∨ n.text = some (a.name ++ "Attribute")

/-- A text without the ending is `t` if it is `t`, with or without the ending.  The ending is taken
off once only; therefore `t` must not have it. -/
theorem withoutSuffix_eq_iff {s t : String} (ht : ¬ "Attribute".toList <:+ t.toList) :
    withoutSuffix s = t ↔ s = t ∨ s = t ++ "Attribute" := by
  unfold withoutSuffix
  by_cases hs : "Attribute".toList <:+ s.toList
  · obtain ⟨start, hstart⟩ := hs
    have htake : s.toList.take (s.toList.length - "Attribute".toList.length) = start := by
      rw [← hstart, List.length_append, Nat.add_sub_cancel]
      exact List.take_left
    -- The name itself has no suffix to lose, so with a suffix it was written in the long form.
    have hne : s ≠ t := by
      rintro rfl
      exact ht ⟨start, hstart⟩
    rw [if_pos (List.isSuffixOf_iff_suffix.mpr ⟨start, hstart⟩), htake, or_iff_right hne,
      ← String.toList_inj, ← String.toList_inj, String.toList_ofList, String.toList_append, ← hstart,
      List.append_cancel_right_eq]
  · have hne : s ≠ t ++ "Attribute" := by
      rintro rfl
      exact hs ⟨t.toList, String.toList_append.symm⟩
    rw [if_neg fun h => hs (List.isSuffixOf_iff_suffix.mp h), or_iff_left hne]

/-- No name has the ending itself. -/
theorem not_suffix_name (a : RetryAttribute) : ¬ "Attribute".toList <:+ a.name.toList := by
  cases a <;> decide

/-- An attribute is named in two ways, by its name alone and with the ending behind it. -/
theorem ofText?_eq_some_iff {s : String} {a : RetryAttribute} :
    ofText? s = some a ↔ s = a.name ∨ s = a.name ++ "Attribute" := by
  rw [← withoutSuffix_eq_iff (not_suffix_name a)]
  unfold ofText?
  constructor
  · intro h
    split at h
    · next hs => rw [hs, Option.some.inj h]
    · split at h
      · next hs => rw [hs, Option.some.inj h]
      · nomatch h
  · intro h
    rw [h]
    cases a <;> decide

/-- **A node is read as a retry attribute if it is one.** Its kind and its text decide; its children
do not. -/
theorem ofNode?_eq_some_iff {n : Node} {a : RetryAttribute} : ofNode? n = some a ↔ a.IsWritten n := by
  unfold ofNode?
  constructor
  · intro h
    split at h
    · next hkind =>
      obtain ⟨text, htext, hname⟩ := Option.bind_eq_some_iff.mp h
      rw [ofText?_eq_some_iff] at hname
      exact ⟨hkind, by rw [htext, Option.some.injEq, Option.some.injEq]; exact hname⟩
    · nomatch h
  · rintro ⟨hkind, htext | htext⟩
    · rw [if_pos hkind, htext]
      exact ofText?_eq_some_iff.mpr (Or.inl rfl)
    · rw [if_pos hkind, htext]
      exact ofText?_eq_some_iff.mpr (Or.inr rfl)

/-! ## Literals -/

/-- An integer literal: its text is a numeral behind one sign or none, blanks at its ends aside, and
denotes a number of thirty-two bits. -/
structure IsInteger (n : Node) (value : Int32) : Prop where
  kind : n.kind = .numericLiteral
  text : ∃ text, n.text = some text ∧
    Text.IsIntegerNumeral (Text.trim text.toList) value.toInt

/-- A string literal with its text. -/
structure IsString (n : Node) (value : String) : Prop where
  kind : n.kind = .stringLiteral
  text : n.text = some value

/-- The numbers of thirty-two bits are those in the range that is checked, and within it no two
integers give the same one. -/
theorem ofInt_eq_iff_of_range {i : Int} {value : Int32} :
    (Int32.minValue.toInt ≤ i ∧ i ≤ Int32.maxValue.toInt) ∧ Int32.ofInt i = value ↔
      value.toInt = i := by
  constructor
  · rintro ⟨⟨hlow, hhigh⟩, rfl⟩
    exact Int32.toInt_ofInt_of_le hlow (Int.lt_add_one_of_le hhigh)
  · rintro rfl
    exact ⟨⟨value.minValue_le_toInt, value.toInt_le⟩, Int32.ofInt_toInt value⟩

/-- An integer is read from a literal of the right kind whose text is a numeral in the range.
Outside of the range it is no integer at all, so that a count never wraps. -/
theorem integer?_eq_some_iff {n : Node} {value : Int32} :
    integer? n = some value ↔ IsInteger n value := by
  simp only [integer?, Option.bind_eq_bind, Option.bind_eq_some_iff, Option.guard_eq_some',
    Bool.and_eq_true, decide_eq_true_eq]
  constructor
  · rintro ⟨-, hkind, text, htext, i, hi, -, hrange, hvalue⟩
    have hinteger := ofInt_eq_iff_of_range.mp ⟨hrange, Option.some.inj hvalue⟩
    exact ⟨hkind, text, htext, hinteger ▸ Text.readInteger?_eq_some_iff.mp hi⟩
  · rintro ⟨hkind, text, htext, hnumeral⟩
    obtain ⟨hrange, hvalue⟩ := ofInt_eq_iff_of_range.mpr (rfl : value.toInt = value.toInt)
    exact ⟨(), hkind, text, htext, value.toInt, Text.readInteger?_eq_some_iff.mpr hnumeral, (),
      hrange, congrArg some hvalue⟩

/-- A string is read from a literal that has a text. -/
theorem string?_eq_some_iff {n : Node} {value : String} :
    string? n = some value ↔ IsString n value := by
  unfold string?
  constructor
  · intro h
    split at h
    · next hkind => exact ⟨hkind, h⟩
    · nomatch h
  · rintro ⟨hkind, htext⟩
    rw [if_pos hkind, htext]

/-! ## Policies -/

/-- The policy that an attribute gives with its arguments: a count and one interval, or a count and
two intervals. -/
inductive Gives : RetryAttribute → List Node → RetryPolicy → Prop where
  | fixedDelay {count delay : Node} {n : Int32} {d : String} (hcount : IsInteger count n)
      (hdelay : IsString delay d) : Gives .fixedDelay [count, delay] (.fixedDelay n d)
  | exponentialBackoff {count low high : Node} {n : Int32} {lo hi : String}
      (hcount : IsInteger count n) (hlow : IsString low lo) (hhigh : IsString high hi) :
      Gives .exponentialBackoff [count, low, high] (.exponentialBackoff n lo hi)

/-- **An attribute gives a policy exactly if its arguments have its shape.** How many there are
counts as much as what they are; the cases are the two attributes. -/
theorem policy?_eq_some_iff {a : RetryAttribute} {arguments : List Node} {p : RetryPolicy} :
    a.policy? arguments = some p ↔ a.Gives arguments p := by
  constructor
  · intro h
    unfold policy? at h
    split at h
    · obtain ⟨n, hn, h⟩ := Option.bind_eq_some_iff.mp h
      obtain ⟨d, hd, h⟩ := Option.bind_eq_some_iff.mp h
      obtain rfl := Option.some.inj h
      exact .fixedDelay (integer?_eq_some_iff.mp hn) (string?_eq_some_iff.mp hd)
    · obtain ⟨n, hn, h⟩ := Option.bind_eq_some_iff.mp h
      obtain ⟨lo, hlo, h⟩ := Option.bind_eq_some_iff.mp h
      obtain ⟨hi, hhi, h⟩ := Option.bind_eq_some_iff.mp h
      obtain rfl := Option.some.inj h
      exact .exponentialBackoff (integer?_eq_some_iff.mp hn) (string?_eq_some_iff.mp hlo)
        (string?_eq_some_iff.mp hhi)
    · nomatch h
  · intro h
    cases h with
    | fixedDelay hcount hdelay =>
      rw [policy?, integer?_eq_some_iff.mpr hcount, string?_eq_some_iff.mpr hdelay]
      rfl
    | exponentialBackoff hcount hlow hhigh =>
      rw [policy?, integer?_eq_some_iff.mpr hcount, string?_eq_some_iff.mpr hlow,
        string?_eq_some_iff.mpr hhigh]
      rfl

/-! ## Declarations -/

/-- None of the nodes is a retry attribute. -/
def NoneOf (ns : List Node) : Prop :=
  ∀ n ∈ ns, ∀ a : RetryAttribute, ¬ a.IsWritten n

/-- What a declaration with these children asks for: the policy that its first retry attribute
gives, or no policy if there is none; an attribute without a policy is malformed. -/
inductive Asks : List Node → Except RetryAttribute RetryPolicy → Prop where
  | nothing {ns : List Node} (hnone : NoneOf ns) : Asks ns (.ok .none)
  | policy {before after : List Node} {n : Node} {a : RetryAttribute} {p : RetryPolicy}
      (hbefore : NoneOf before) (hn : a.IsWritten n) (hp : a.policy? n.attributeArguments = some p) :
      Asks (before ++ n :: after) (.ok p)
  | malformed {before after : List Node} {n : Node} {a : RetryAttribute} (hbefore : NoneOf before)
      (hn : a.IsWritten n) (hp : a.policy? n.attributeArguments = none) :
      Asks (before ++ n :: after) (.error a)

/-- None of some nodes is a retry attribute if the first is none and the others are none. -/
theorem noneOf_cons {n : Node} {ns : List Node} :
    NoneOf (n :: ns) ↔ ofNode? n = none ∧ NoneOf ns := by
  have hhead : (∀ a : RetryAttribute, ¬ a.IsWritten n) ↔ ofNode? n = none := by
    rw [Option.eq_none_iff_forall_ne_some]
    exact forall_congr' fun a => not_congr ofNode?_eq_some_iff.symm
  rw [NoneOf, List.forall_mem_cons, hhead]
  rfl

/-- The children in front of the first retry attribute do not count. -/
theorem policyOf_append {before : List Node} (h : NoneOf before) (ns : List Node) :
    policyOf (before ++ ns) = policyOf ns := by
  induction before with
  | nil => rfl
  | cons n before ih =>
    obtain ⟨hn, hbefore⟩ := noneOf_cons.mp h
    rw [List.cons_append, policyOf, hn]
    exact ih hbefore

/-- The first retry attribute decides, when it gives a policy.  The nodes behind it are not looked
at. -/
theorem policyOf_cons_of_policy {n : Node} {a : RetryAttribute} {p : RetryPolicy}
    (hn : a.IsWritten n) (hp : a.policy? n.attributeArguments = some p) (ns : List Node) :
    policyOf (n :: ns) = .ok p := by
  simp only [policyOf, ofNode?_eq_some_iff.mpr hn, hp]

/-- The first retry attribute decides, when it is malformed.  It does not give way to a later one. -/
theorem policyOf_cons_of_malformed {n : Node} {a : RetryAttribute} (hn : a.IsWritten n)
    (hp : a.policy? n.attributeArguments = none) (ns : List Node) :
    policyOf (n :: ns) = .error a := by
  simp only [policyOf, ofNode?_eq_some_iff.mpr hn, hp]

/-- What is read off the children is something that they ask for, by induction over the children.  A
child that is no retry attribute is passed over, and the first one that is decides. -/
theorem asks_policyOf (ns : List Node) : Asks ns (policyOf ns) := by
  induction ns with
  | nil => exact .nothing fun n hn => (List.not_mem_nil hn).elim
  | cons n ns ih =>
    cases hn : ofNode? n with
    | some a =>
      have hwritten : a.IsWritten n := ofNode?_eq_some_iff.mp hn
      have hbefore : NoneOf [] := fun m hm => (List.not_mem_nil hm).elim
      cases hp : a.policy? n.attributeArguments with
      | some p =>
        rw [policyOf_cons_of_policy hwritten hp]
        exact .policy hbefore hwritten hp
      | none =>
        rw [policyOf_cons_of_malformed hwritten hp]
        exact .malformed hbefore hwritten hp
    | none =>
      have hrest : policyOf (n :: ns) = policyOf ns := by rw [policyOf, hn]
      rw [hrest]
      -- what the rest asks for, with one more child in front that is no retry attribute
      generalize policyOf ns = result at ih ⊢
      cases ih with
      | nothing hnone => exact .nothing (noneOf_cons.mpr ⟨hn, hnone⟩)
      | policy hbefore hm hp => exact .policy (noneOf_cons.mpr ⟨hn, hbefore⟩) hm hp
      | malformed hbefore hm hp => exact .malformed (noneOf_cons.mpr ⟨hn, hbefore⟩) hm hp

/-- **What the children of a declaration ask for is what is read off them**, and nothing else, since
the reading is a function. -/
theorem asks_iff {ns : List Node} {result : Except RetryAttribute RetryPolicy} :
    Asks ns result ↔ policyOf ns = result := by
  constructor
  · intro h
    cases h with
    | nothing hnone =>
      -- Nothing malformed stands before the end of the list.
      have hread := policyOf_append hnone []
      rw [List.append_nil] at hread
      exact hread
    | policy hbefore hn hp => rw [policyOf_append hbefore, policyOf_cons_of_policy hn hp]
    | malformed hbefore hn hp =>
      rw [policyOf_append hbefore, policyOf_cons_of_malformed hn hp]
  · rintro rfl
    exact asks_policyOf ns

/-! ## The first retry attribute -/

/-- A node is the first retry attribute among some nodes. -/
structure IsFirst (a : RetryAttribute) (n : Node) (ns : List Node) : Prop where
  split : ∃ before after, ns = before ++ n :: after ∧ NoneOf before
  written : a.IsWritten n

/-- The first retry attribute alone decides, so a declaration with it asks for what it asks for
alone. -/
theorem policyOf_of_isFirst {a : RetryAttribute} {n : Node} {ns : List Node} (h : a.IsFirst n ns) :
    policyOf ns = policyOf [n] := by
  obtain ⟨⟨before, after, rfl, hbefore⟩, hn⟩ := h
  rw [policyOf_append hbefore]
  cases hp : a.policy? n.attributeArguments with
  | some p => rw [policyOf_cons_of_policy hn hp, policyOf_cons_of_policy hn hp]
  | none => rw [policyOf_cons_of_malformed hn hp, policyOf_cons_of_malformed hn hp]

/-- One retry attribute gives the policy of its arguments. -/
theorem policyOf_singleton_eq_ok_iff {a : RetryAttribute} {n : Node} {arguments : List Node}
    (hn : a.IsWritten n) (harguments : n.PassesOn arguments) (p : RetryPolicy) :
    policyOf [n] = .ok p ↔ a.Gives arguments p := by
  rw [← policy?_eq_some_iff, ← Node.passesOn_iff.mp harguments]
  cases hp : a.policy? n.attributeArguments with
  | some q =>
    rw [policyOf_cons_of_policy hn hp]
    simp only [Except.ok.injEq, Option.some.injEq]
  | none =>
    rw [policyOf_cons_of_malformed hn hp]
    exact iff_of_false nofun nofun

/-- One retry attribute is the error itself if its arguments give no policy, and there is no other
error. -/
theorem policyOf_singleton_eq_error_iff {a : RetryAttribute} {n : Node} {arguments : List Node}
    (hn : a.IsWritten n) (harguments : n.PassesOn arguments) (e : RetryAttribute) :
    policyOf [n] = .error e ↔ e = a ∧ ∀ p, ¬ a.Gives arguments p := by
  -- The arguments that are passed on are those the reader sees, so being malformed is reading none.
  simp only [← policy?_eq_some_iff, ← Node.passesOn_iff.mp harguments]
  cases hp : a.policy? n.attributeArguments with
  | some q =>
    rw [policyOf_cons_of_policy hn hp]
    exact iff_of_false nofun fun h => h.2 q rfl
  | none =>
    rw [policyOf_cons_of_malformed hn hp]
    constructor
    · intro h
      exact ⟨(Except.error.inj h).symm, nofun⟩
    · rintro ⟨rfl, -⟩
      rfl

/-- A declaration has a first retry attribute, or it has none. -/
theorem noneOf_or_isFirst (ns : List Node) : NoneOf ns ∨ ∃ a n, IsFirst a n ns := by
  have hasks := asks_policyOf ns
  generalize policyOf ns = result at hasks
  cases hasks with
  | nothing hnone => exact Or.inl hnone
  | policy hbefore hn _ => exact Or.inr ⟨_, _, ⟨_, _, rfl, hbefore⟩, hn⟩
  | malformed hbefore hn _ => exact Or.inr ⟨_, _, ⟨_, _, rfl, hbefore⟩, hn⟩

/-- **The first retry attribute of a declaration decides, and nothing else does.**  Without one, the
declaration asks for no policy.  Otherwise every declaration with the same first retry attribute asks
for the same; this is a policy exactly if the arguments that the attribute passes on are of the shape
that gives it, and in every other case the attribute is the error. -/
theorem policyOfDeclaration_by_first_attribute (declaration : Node) :
    (NoneOf declaration.children ∧ policyOfDeclaration declaration = .ok .none) ∨
    ∃ a n arguments, IsFirst a n declaration.children ∧ n.PassesOn arguments ∧
      (∀ other : Node, a.IsFirst n other.children →
        policyOfDeclaration other = policyOfDeclaration declaration) ∧
      (∀ p, policyOfDeclaration declaration = .ok p ↔ a.Gives arguments p) ∧
      (∀ e, policyOfDeclaration declaration = .error e ↔ e = a ∧ ∀ p, ¬ a.Gives arguments p) := by
  unfold policyOfDeclaration
  cases noneOf_or_isFirst declaration.children with
  | inl hnone => exact Or.inl ⟨hnone, asks_iff.mp (.nothing hnone)⟩
  | inr hfirst =>
    obtain ⟨a, n, hfirst⟩ := hfirst
    have harguments : n.PassesOn n.attributeArguments := Node.passesOn_iff.mpr rfl
    -- What stands behind the first attribute plays no part: the attribute alone gives the result.
    refine Or.inr ⟨a, n, _, hfirst, harguments, fun other hother => ?_, ?_, ?_⟩
    · rw [policyOf_of_isFirst hother, policyOf_of_isFirst hfirst]
    · rw [policyOf_of_isFirst hfirst]
      exact policyOf_singleton_eq_ok_iff hfirst.written harguments
    · rw [policyOf_of_isFirst hfirst]
      exact policyOf_singleton_eq_error_iff hfirst.written harguments

/-- A count that is too large by one makes the attribute the error, although another one follows. -/
example : policyOfDeclaration (Build.declaration "Configure"
    [Build.attributeNode "Obsolete" [],
      Build.attributeNode "FixedDelayRetryAttribute"
        [⟨.numericLiteral, some " +2147483648", []⟩, Build.stringLiteral "00:00:10"],
      Build.attributeNode "FixedDelayRetry" [Build.numericLiteral 1, Build.stringLiteral "00:00:10"]]
    []) = .error .fixedDelay := by
  decide

end RetryAttribute

end RouteIndex
