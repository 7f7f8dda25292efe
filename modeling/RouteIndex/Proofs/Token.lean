/-
  Handles of one flag, through any use of the tokens.

  Tokens are only ever created, cloned and cancelled.  Each of these uses leaves alone what there was:
  a slot names the same flag as before (`Names.apply`), and a flag that is up stays up
  (`raised_apply`).  A clone is a handle of the flag of the token that it was made from
  (`Shares.clone`); so cancelling any handle of a flag cancels all of them, for good
  (**`Shares.isCancelled`**).
-/

import RouteIndex.Token

namespace RouteIndex.Tokens

/-! ## Uses -/

/-- What can be done with tokens. -/
inductive Use where
  | create
  | clone (slot : Nat)
  | cancel (slot : Nat)
  deriving DecidableEq, Repr

/-- The tokens after one use. -/
def apply (t : Tokens) : Use → Tokens
  | .create => t.create
  | .clone slot => t.clone slot
  | .cancel slot => t.cancel slot

/-- The tokens after some uses, one after the other. -/
def applyAll (t : Tokens) (uses : List Use) : Tokens :=
  uses.foldl apply t

/-- The slot names a flag. -/
def Names (t : Tokens) (slot flag : Nat) : Prop :=
  t.slots[slot]? = some flag ∧ flag < t.flags.length

/-- The slots hold handles of one flag. -/
def Shares (t : Tokens) (a b : Nat) : Prop :=
  ∃ flag, t.Names a flag ∧ t.Names b flag

variable {t : Tokens} {a b slot flag : Nat}

/-- A new token takes a new slot and a new flag, behind all others. -/
theorem Names.create (h : t.Names slot flag) : t.create.Names slot flag := by
  obtain ⟨hslot, hflag⟩ := h
  refine ⟨?_, ?_⟩
  · rw [Tokens.create, List.getElem?_append_left (List.getElem?_eq_some_iff.mp hslot).1, hslot]
  · rw [Tokens.create, List.length_append]
    omega

/-- A clone takes a new slot, behind all others. -/
theorem Names.clone (h : t.Names slot flag) (other : Nat) : (t.clone other).Names slot flag := by
  obtain ⟨hslot, hflag⟩ := h
  unfold Tokens.clone
  split
  · refine ⟨?_, hflag⟩
    rw [List.getElem?_append_left (List.getElem?_eq_some_iff.mp hslot).1, hslot]
  · exact ⟨hslot, hflag⟩

/-- Cancelling changes flags only. -/
theorem Names.cancel (h : t.Names slot flag) (other : Nat) : (t.cancel other).Names slot flag := by
  obtain ⟨hslot, hflag⟩ := h
  unfold Tokens.cancel
  split
  · refine ⟨hslot, ?_⟩
    rw [List.length_set]
    exact hflag
  · exact ⟨hslot, hflag⟩

/-- **A slot names the same flag after every use.** -/
theorem Names.apply (h : t.Names slot flag) (use : Use) : (t.apply use).Names slot flag := by
  cases use with
  | create => exact h.create
  | clone other => exact h.clone other
  | cancel other => exact h.cancel other

/-- Whatever is done with tokens, a slot names the same flag for good. -/
theorem Names.applyAll (h : t.Names slot flag) (uses : List Use) :
    (t.applyAll uses).Names slot flag := by
  induction uses generalizing t with
  | nil => exact h
  | cons use uses ih => exact ih (h.apply use)

/-- A token is cancelled if its flag is up. -/
theorem Names.isCancelled_iff (h : t.Names slot flag) :
    t.isCancelled slot = true ↔ t.flags[flag]? = some true := by
  rw [isCancelled, h.1, Option.bind_some, List.getElem?_eq_getElem h.2, Option.getD_some,
    Option.some.injEq]

/-! ## Cancelling -/

/-- **A flag that is up stays up.** No use takes a flag down; a new one is put behind the others. -/
theorem raised_apply (h : t.flags[flag]? = some true) (use : Use) :
    (t.apply use).flags[flag]? = some true := by
  have hflag := (List.getElem?_eq_some_iff.mp h).1
  cases use with
  | create => exact (List.getElem?_append_left hflag).trans h
  | clone other =>
    show (t.clone other).flags[flag]? = some true
    unfold Tokens.clone
    split
    · exact h
    · exact h
  | cancel other =>
    show (t.cancel other).flags[flag]? = some true
    unfold Tokens.cancel
    split
    · rename_i raised _
      -- Cancelling only raises flags, be it this one or another.
      by_cases hsame : raised = flag
      · rw [hsame]
        exact List.getElem?_set_self hflag
      · exact (List.getElem?_set_ne hsame).trans h
    · exact h

/-- So it does through any uses, by induction over them. -/
theorem raised_applyAll (h : t.flags[flag]? = some true) (uses : List Use) :
    (t.applyAll uses).flags[flag]? = some true := by
  induction uses generalizing t with
  | nil => exact h
  | cons use uses ih => exact ih (raised_apply h use)

/-- Cancelling a token raises its flag, whichever handle of the flag it is. -/
theorem Names.raised_cancel (h : t.Names slot flag) : (t.cancel slot).flags[flag]? = some true := by
  unfold Tokens.cancel
  rw [h.1]
  exact List.getElem?_set_self h.2

/-- Handles of one flag stay so. -/
theorem Shares.applyAll (h : t.Shares a b) (uses : List Use) : (t.applyAll uses).Shares a b := by
  obtain ⟨flag, ha, hb⟩ := h
  exact ⟨flag, ha.applyAll uses, hb.applyAll uses⟩

/-- **A token is cancelled by any handle of its flag, for good.** Whatever is done with tokens
behind the cancellation, creating and cloning included, it is seen through every other handle. -/
theorem Shares.isCancelled (h : t.Shares a b) (uses : List Use) :
    ((t.cancel b).applyAll uses).isCancelled a = true := by
  obtain ⟨flag, ha, hb⟩ := h
  have hslot := (ha.cancel b).applyAll uses
  exact hslot.isCancelled_iff.mpr (raised_applyAll hb.raised_cancel uses)

/-! ## Handles -/

/-- A clone is a handle of the same flag as all others, however many clones lie between it and the
first token. -/
theorem Shares.clone (h : t.Shares a b) : (t.clone b).Shares a t.slots.length := by
  obtain ⟨flag, ha, hb⟩ := h
  refine ⟨flag, ha.clone b, ?_, (hb.clone b).2⟩
  unfold Tokens.clone
  rw [hb.1]
  exact List.getElem?_concat_length

/-- A new token is the handle of a new flag, so it shares no flag with those before it. -/
theorem names_create (t : Tokens) : t.create.Names t.slots.length t.flags.length := by
  refine ⟨List.getElem?_concat_length, ?_⟩
  rw [Tokens.create, List.length_append]
  exact Nat.lt_succ_self _

/-- Every slot holds a handle. -/
def IsSound (t : Tokens) : Prop :=
  ∀ slot < t.slots.length, ∃ flag, t.Names slot flag

/-- A use leaves no slot without its flag.  Creating makes a slot together with its flag, cloning
copies a slot that had one, and cancelling only changes the value of a flag. -/
theorem IsSound.apply (h : t.IsSound) (use : Use) : (t.apply use).IsSound := by
  intro slot hslot
  by_cases hold : slot < t.slots.length
  · obtain ⟨flag, hnames⟩ := h slot hold
    exact ⟨flag, hnames.apply use⟩
  · -- the use has handed out this slot
    cases use with
    | create =>
      have hlength : t.create.slots.length = t.slots.length + 1 := List.length_append
      have hlast : slot = t.slots.length := by
        have hslot' : slot < t.create.slots.length := hslot
        omega
      rw [hlast]
      exact ⟨t.flags.length, names_create t⟩
    | clone other =>
      have hslot' : slot < (t.clone other).slots.length := hslot
      unfold Tokens.clone at hslot'
      split at hslot'
      · rename_i flag hother
        obtain ⟨flag, hnames⟩ := h other (List.getElem?_eq_some_iff.mp hother).1
        have hlast : slot = t.slots.length := by
          rw [List.length_append, List.length_singleton] at hslot'
          omega
        obtain ⟨_, -, hclone⟩ := Shares.clone ⟨flag, hnames, hnames⟩
        rw [hlast]
        exact ⟨_, hclone⟩
      · exact absurd hslot' hold
    | cancel other =>
      have hslot' : slot < (t.cancel other).slots.length := hslot
      unfold Tokens.cancel at hslot'
      split at hslot'
      · exact absurd hslot' hold
      · exact absurd hslot' hold

/-- **Every token that has been handed out is a handle**, of its own flag or of one that it shares. -/
theorem isSound_start_applyAll (uses : List Use) : (start.applyAll uses).IsSound := by
  have hstart : start.IsSound := by
    intro slot hslot
    obtain rfl : slot = 0 := Nat.lt_one_iff.mp hslot
    exact ⟨0, rfl, Nat.zero_lt_one⟩
  suffices h : ∀ t : Tokens, t.IsSound → (t.applyAll uses).IsSound from h start hstart
  induction uses with
  | nil => exact fun _ h => h
  | cons use uses ih => exact fun t h => ih (t.apply use) (h.apply use)

end RouteIndex.Tokens
