/-
  Properties in layers: pairs over the properties of a file.

  1. **Pairs** — a pair is cut at its first equals sign, and blanks at the ends of its parts do not
     count; a text is no pair if it has no such sign or nothing but blanks in front of it
     (`pair?_eq_some_iff`, `pair?_eq_none_iff`).
  2. **Layers** — `Layered` says what a name has: the value of the last pair for it, or else what the
     file has.  The first pair can be put into the file (`layered_cons_iff`); by induction over the
     pairs, it is what is found when all of them are set (**`layered_iff`**).
  3. **Changes** — pairs for different names can change places, and pairs for other names do not
     matter for a name (`insertAll_exchange`, `get?_insertAll_of_nonePairs`).
-/

import RouteIndex.Proofs.Properties
import RouteIndex.Proofs.Text.Pieces

namespace RouteIndex.Properties

/-! ## Pairs -/

/-- A pair, with its name and its value: what is in front of its first equals sign and behind it,
without blanks at the ends. -/
inductive IsPair : String → String → String → Prop where
  | mk {before after : List Char} (hsign : '=' ∉ before) (hname : Text.isBlankText before = false) :
      IsPair (String.ofList (before ++ '=' :: after)) (String.ofList (Text.trim before))
        (String.ofList (Text.trim after))

/-- A text that is no pair: there is no equals sign, or only blanks are in front of it. -/
inductive IsMalformed : String → Prop where
  | unsigned {s : String} (hsign : '=' ∉ s.toList) : IsMalformed s
  | unnamed {before after : List Char} (hblank : Text.isBlankText before = true) :
      IsMalformed (String.ofList (before ++ '=' :: after))

/-- An equals sign is no blank, so a blank text has none. -/
theorem sign_not_mem_of_isBlankText {cs : List Char} (h : Text.isBlankText cs = true) : '=' ∉ cs := by
  intro hmem
  have hsign : Text.isBlank '=' = true := List.all_eq_true.mp h '=' hmem
  exact absurd hsign (by decide)

/-- What is made of a text that is cut in two: nothing, if there are only blanks in front of the
sign, and else both parts without the blanks at their ends. -/
theorem pair?_of_cut {s : String} {before after : List Char}
    (h : Text.cut? '=' s.toList = some (before, after)) :
    pair? s = if Text.isBlankText before then none
      else some (String.ofList (Text.trim before), String.ofList (Text.trim after)) := by
  simp only [pair?, h, Text.isEmpty_trim]

variable {s key value : String}

/-- The reading meets the relation: a text is read as a pair exactly if it is one.  The value may
have equals signs of its own, since the text is cut at the first. -/
theorem pair?_eq_some_iff : pair? s = some (key, value) ↔ IsPair s key value := by
  constructor
  · intro h
    cases hcut : Text.cut? '=' s.toList with
    | none =>
      rw [pair?, hcut] at h
      cases h
    | some parts =>
      obtain ⟨before, after⟩ := parts
      obtain ⟨hs, hsign⟩ := Text.cut?_eq_some_iff.mp hcut
      rw [pair?_of_cut hcut] at h
      split at h
      · cases h
      · next hblank =>
        cases h
        rw [← String.ofList_toList (s := s), hs]
        exact .mk hsign (Bool.eq_false_iff.mpr hblank)
  · rintro ⟨hsign, hname⟩
    rw [pair?_of_cut (Text.cut?_eq_some_iff.mpr ⟨String.toList_ofList, hsign⟩), hname]
    rfl

/-- **A text that is not read is malformed**, in one of the two ways that there are. -/
theorem pair?_eq_none_iff : pair? s = none ↔ IsMalformed s := by
  constructor
  · intro h
    cases hcut : Text.cut? '=' s.toList with
    | none => exact .unsigned (Text.cut?_eq_none_iff.mp hcut)
    | some parts =>
      obtain ⟨before, after⟩ := parts
      rw [pair?_of_cut hcut] at h
      split at h
      · next hblank =>
        rw [← String.ofList_toList (s := s), (Text.cut?_eq_some_iff.mp hcut).1]
        exact .unnamed hblank
      · cases h
  · intro h
    cases h with
    | unsigned hsign => rw [pair?, Text.cut?_eq_none_iff.mpr hsign]
    | unnamed hblank =>
      have hsign := sign_not_mem_of_isBlankText hblank
      rw [pair?_of_cut (Text.cut?_eq_some_iff.mpr ⟨String.toList_ofList, hsign⟩), hblank]
      rfl

/-- A text is a pair for one name at most. -/
theorem IsPair.unique {key' value' : String} (h : IsPair s key value) (h' : IsPair s key' value') :
    key = key' ∧ value = value' := by
  have hboth := (pair?_eq_some_iff.mpr h).symm.trans (pair?_eq_some_iff.mpr h')
  exact Prod.mk.inj (Option.some.inj hboth)

/-- No text is both. -/
theorem IsPair.not_isMalformed (h : IsPair s key value) : ¬ IsMalformed s := by
  intro hmalformed
  exact nomatch (pair?_eq_some_iff.mpr h).symm.trans (pair?_eq_none_iff.mpr hmalformed)

/-! ## Layers -/

/-- No pair is one for this name. -/
def NonePairs (pairs : List String) (key : String) : Prop :=
  ∀ s ∈ pairs, ∀ value, ¬ IsPair s key value

/-- What a name has over a file and pairs: the value of the last pair for it, or else what the file
has. -/
inductive Layered (file : Properties) (pairs : List String) (key : String) : Option String → Prop where
  | pair (earlier later : List String) {s value : String} (hpairs : pairs = earlier ++ s :: later)
      (hs : IsPair s key value) (hlast : NonePairs later key) : Layered file pairs key (some value)
  | file (hnone : NonePairs pairs key) : Layered file pairs key (file.get? key)

variable {file : Properties} {pairs : List String} {found : Option String}

/-- A name has no pair among some texts if it has none in the first and none in the others. -/
theorem nonePairs_cons_iff :
    NonePairs (s :: pairs) key ↔ (∀ value, ¬ IsPair s key value) ∧ NonePairs pairs key :=
  List.forall_mem_cons

/-- Without a pair for the name, the file decides. -/
theorem Layered.of_get? (hnone : NonePairs pairs key) (h : file.get? key = found) :
    Layered file pairs key found :=
  h ▸ .file hnone

/-- A text in front of a pair for the name does not matter, since the last one wins. -/
theorem Layered.cons_pair {earlier later : List String} (hpairs : pairs = earlier ++ s :: later)
    (hs : IsPair s key value) (hlast : NonePairs later key) (first : String) :
    Layered file (first :: pairs) key (some value) :=
  .pair (first :: earlier) later (congrArg (first :: ·) hpairs) hs hlast

/-- A text that is no pair for the name does not matter, whether it is one for another name or none
at all. -/
theorem layered_cons_of_not (h : ∀ value, ¬ IsPair s key value) :
    Layered file (s :: pairs) key found ↔ Layered file pairs key found := by
  constructor
  · intro hlayered
    cases hlayered with
    | file hnone => exact .file (nonePairs_cons_iff.mp hnone).2
    | pair earlier later hpairs hs hlast =>
      -- A pair that is malformed sets nothing, so the last one that does lies behind it.
      cases earlier with
      | nil =>
        obtain ⟨rfl, rfl⟩ := List.cons.inj hpairs
        exact absurd hs (h _)
      | cons _ earlier => exact .pair earlier later (List.cons.inj hpairs).2 hs hlast
  · intro hlayered
    cases hlayered with
    | file hnone => exact .file (nonePairs_cons_iff.mpr ⟨h, hnone⟩)
    | pair _ _ hpairs hs hlast => exact .cons_pair hpairs hs hlast s

/-- **The first pair can be put into the file.** If a later pair has its name, both are hidden by
that one; and if not, the file has the value of the pair. -/
theorem layered_cons_iff {name : String} (h : IsPair s name value) :
    Layered file (s :: pairs) key found ↔ Layered (file.insert name value) pairs key found := by
  have hget := get?_insert file name value key
  constructor
  · -- The first pair is the last one for its name exactly when none behind it sets that name; then
    -- the file it has gone into holds its value.
    intro hlayered
    cases hlayered with
    | file hnone =>
      obtain ⟨hnot, hnone⟩ := nonePairs_cons_iff.mp hnone
      have hne : key ≠ name := fun heq => hnot value (heq ▸ h)
      rw [if_neg hne] at hget
      exact .of_get? hnone hget
    | pair earlier later hpairs hs hlast =>
      cases earlier with
      | nil =>
        obtain ⟨rfl, rfl⟩ := List.cons.inj hpairs
        obtain ⟨rfl, rfl⟩ := h.unique hs
        rw [if_pos rfl] at hget
        exact .of_get? hlast hget
      | cons _ earlier => exact .pair earlier later (List.cons.inj hpairs).2 hs hlast
  · intro hlayered
    cases hlayered with
    | pair _ _ hpairs hs hlast => exact .cons_pair hpairs hs hlast s
    | file hnone =>
      rw [hget]
      by_cases heq : key = name
      · rw [if_pos heq]
        exact .pair [] pairs rfl (heq ▸ h) hnone
      · rw [if_neg heq]
        refine .file (nonePairs_cons_iff.mpr ⟨fun value' hs => ?_, hnone⟩)
        exact heq (hs.unique h).1

/-- **The layers are what is found when all pairs are set.** By induction over the pairs, with the
file left open, since each pair is put into it. -/
theorem layered_iff :
    Layered file pairs key found ↔ (file.insertAll (pairs.filterMap pair?)).get? key = found := by
  induction pairs generalizing file with
  | nil =>
    constructor
    · intro hlayered
      cases hlayered with
      | file _ => rfl
      | pair _ _ hpairs _ _ => exact absurd hpairs.symm (List.append_ne_nil_of_right_ne_nil _ nofun)
    · exact .of_get? fun s hs => absurd hs List.not_mem_nil
  | cons s pairs ih =>
    -- The file is left open, as each pair goes into it before the next one is read.
    cases hs : pair? s with
    | none =>
      have hmalformed := pair?_eq_none_iff.mp hs
      rw [layered_cons_of_not fun value hpair => hpair.not_isMalformed hmalformed, ih,
        List.filterMap_cons_none hs]
    | some entry =>
      rw [layered_cons_iff (pair?_eq_some_iff.mp hs), ih, List.filterMap_cons_some hs]
      rfl

/-! ## Changes -/

theorem insertAll_append (p : Properties) (entries more : List (String × String)) :
    p.insertAll (entries ++ more) = (p.insertAll entries).insertAll more :=
  List.foldl_append

/-- Two pairs for different names that follow each other can change places: setting the one and the
other gives the same properties, as they are kept in the order of their names. -/
theorem insertAll_exchange (hfile : file.IsAscending) {a b key' value' : String}
    (ha : IsPair a key value) (hb : IsPair b key' value') (hne : key ≠ key')
    (front back : List String) :
    file.insertAll ((front ++ b :: a :: back).filterMap pair?) =
      file.insertAll ((front ++ a :: b :: back).filterMap pair?) := by
  rw [← pair?_eq_some_iff] at ha hb
  have hfront : IsAscending (file.insertAll (front.filterMap pair?)) := hfile.insertAll
  rw [List.filterMap_append, List.filterMap_append, insertAll_append, insertAll_append,
    List.filterMap_cons_some ha, List.filterMap_cons_some hb, List.filterMap_cons_some hb,
    List.filterMap_cons_some ha]
  exact congrArg (insertAll · (back.filterMap pair?)) (insert_comm hfront hne.symm)

/-- Pairs for other names do not matter, wherever they are added: none of their entries is found
under the name, so what is found without them is found with them. -/
theorem get?_insertAll_of_nonePairs (file : Properties) (front : List String) {more : List String}
    (back : List String) (h : NonePairs more key) :
    (file.insertAll ((front ++ more ++ back).filterMap pair?)).get? key =
      (file.insertAll ((front ++ back).filterMap pair?)).get? key := by
  have hmore : (more.filterMap pair?).reverse.lookup key = none := by
    rw [List.lookup_eq_none_iff]
    intro e he
    obtain ⟨s, hs, hpair⟩ := List.mem_filterMap.mp (List.mem_reverse.mp he)
    rw [bne_iff_ne]
    rintro rfl
    exact h s hs e.2 (pair?_eq_some_iff.mp hpair)
  have hskip (p : Properties) : (p.insertAll (more.filterMap pair?)).get? key = p.get? key := by
    rw [get?_insertAll, hmore, Option.none_or]
  rw [List.filterMap_append, List.filterMap_append, List.filterMap_append, insertAll_append,
    insertAll_append, insertAll_append, get?_insertAll, hskip, ← get?_insertAll]

end RouteIndex.Properties
