/-
  Properties as values by name.

  1. **Order** — the names ascend (`IsAscending`), whatever is set: a new name goes to its place, and
     a known one stays where it is.
  2. **Entries** — since no name comes twice, the entries are exactly the values that are found
     (`mem_entries_iff`), and properties with the same values are the same (`eq_of_get?_eq`).
  3. **Later values** — of all values that are set for a name the last one is found, and before that
     only what was there already (`get?_insertAll`); so a merge looks at the second properties first
     (`get?_merge`).
-/

import RouteIndex.Properties

namespace RouteIndex.Properties

variable {p q : Properties} {key value : String} {entries : List (String × String)}

/-! ## Order -/

/-- Entries by ascending names. -/
def Ascends (entries : List (String × String)) : Prop :=
  entries.Pairwise fun e f => e.1 < f.1

/-- Properties whose names ascend. -/
def IsAscending (p : Properties) : Prop :=
  Ascends p.entries

/-- Setting a name adds one entry and keeps some of the others. -/
theorem mem_insertEntry {e : String × String} (h : e ∈ insertEntry key value entries) :
    e = (key, value) ∨ e ∈ entries := by
  induction entries with
  | nil => exact Or.inl (List.mem_singleton.mp h)
  | cons f rest ih =>
    rw [insertEntry] at h
    split at h
    · cases List.mem_cons.mp h with
      | inl h => exact Or.inl h
      | inr h => exact Or.inr (List.mem_cons_of_mem f h)
    · split at h
      · exact List.mem_cons.mp h
      · cases List.mem_cons.mp h with
        | inl h => exact Or.inr (h ▸ List.mem_cons_self)
        | inr h => exact (ih h).imp_right (List.mem_cons_of_mem f)

/-- A name that is set goes to its place.  The entries in front of it are smaller, and the one of
the same name is replaced. -/
theorem ascends_insertEntry (h : Ascends entries) : Ascends (insertEntry key value entries) := by
  induction entries with
  | nil => exact List.pairwise_singleton _ _
  | cons f rest ih =>
    obtain ⟨hfirst, hrest⟩ := List.pairwise_cons.mp h
    rw [insertEntry]
    split
    · next heq =>
      -- the name was there, and stays where it is
      exact List.pairwise_cons.mpr ⟨fun e he => heq ▸ hfirst e he, hrest⟩
    · next hne =>
      split
      · next hlt =>
        refine List.pairwise_cons.mpr ⟨List.forall_mem_cons.mpr ⟨hlt, fun e he => ?_⟩, h⟩
        exact String.lt_trans hlt (hfirst e he)
      · next hnot =>
        have hgt : f.1 < key := Std.lt_of_le_of_ne (String.not_lt.mp hnot) (Ne.symm hne)
        refine List.pairwise_cons.mpr ⟨fun e he => ?_, ih hrest⟩
        cases mem_insertEntry he with
        | inl he => exact he ▸ hgt
        | inr he => exact hfirst e he

theorem isAscending_empty : IsAscending empty :=
  List.Pairwise.nil

theorem IsAscending.insert (h : p.IsAscending) : (p.insert key value).IsAscending :=
  ascends_insertEntry h

/-- Whatever is set, the names ascend, by induction over what is set. -/
theorem IsAscending.insertAll (h : p.IsAscending) : (p.insertAll entries).IsAscending := by
  induction entries generalizing p with
  | nil => exact h
  | cons e rest ih => exact ih h.insert

/-- So they do in a merge, which sets the entries of the second properties. -/
theorem IsAscending.merge (h : p.IsAscending) : (p.merge q).IsAscending :=
  h.insertAll

/-! ## Entries -/

/-- A value is found exactly if it is there, as no name comes twice.  Without the hypothesis only
the first of the entries with that name would be found. -/
theorem lookup_eq_some_iff (h : entries.Pairwise fun e f => e.1 ≠ f.1) :
    entries.lookup key = some value ↔ (key, value) ∈ entries := by
  induction entries with
  | nil => exact iff_of_false nofun List.not_mem_nil
  | cons e rest ih =>
    obtain ⟨hfirst, hrest⟩ := List.pairwise_cons.mp h
    rw [List.lookup_cons, List.mem_cons]
    by_cases hkey : key = e.1
    · rw [beq_iff_eq.mpr hkey]
      -- The name occurs once, so nothing behind the entry has it.
      have hnot : (key, value) ∉ rest := fun hmem => hfirst _ hmem hkey.symm
      rw [or_iff_left hnot]
      constructor
      · intro hvalue
        exact Prod.ext hkey (Option.some.inj hvalue).symm
      · intro he
        rw [← he]
    · rw [beq_eq_false_iff_ne.mpr hkey]
      have hne : (key, value) ≠ e := fun he => hkey (congrArg Prod.fst he)
      rw [or_iff_right hne]
      exact ih hrest

/-- Which value is found does not depend on the order, as no name comes twice. -/
theorem lookup_reverse (h : entries.Pairwise fun e f => e.1 ≠ f.1) (key : String) :
    entries.reverse.lookup key = entries.lookup key := by
  have hreverse : entries.reverse.Pairwise fun e f => e.1 ≠ f.1 :=
    List.pairwise_reverse.mpr (h.imp Ne.symm)
  ext value
  rw [lookup_eq_some_iff hreverse, lookup_eq_some_iff h, List.mem_reverse]

/-- Names that ascend are different. -/
theorem Ascends.names_ne (h : Ascends entries) : entries.Pairwise fun e f => e.1 ≠ f.1 := by
  refine List.Pairwise.imp (fun {e f} hlt heq => ?_) h
  rw [heq] at hlt
  exact String.lt_irrefl f.1 hlt

/-- The entries are the values that are found, so properties can be seen as a function of names. -/
theorem IsAscending.mem_entries_iff (h : p.IsAscending) :
    (key, value) ∈ p.entries ↔ p.get? key = some value :=
  (lookup_eq_some_iff h.names_ne).symm

/-- Entries without a name that comes twice are the entries of properties in which each of them is
found. -/
theorem IsAscending.perm_entries (hp : p.IsAscending) (h : entries.Pairwise fun e f => e.1 ≠ f.1)
    (hfound : ∀ key, p.get? key = entries.lookup key) : p.entries.Perm entries := by
  have hnodup {entries : List (String × String)} (h : entries.Pairwise fun e f => e.1 ≠ f.1) :
      entries.Nodup := h.imp fun hne heq => hne (congrArg Prod.fst heq)
  refine (List.perm_ext_iff_of_nodup (hnodup hp.names_ne) (hnodup h)).mpr ?_
  rintro ⟨key, value⟩
  rw [hp.mem_entries_iff, hfound, lookup_eq_some_iff h]

/-- **Properties with the same values are the same**: they have the same entries, in the only order
that there is. -/
theorem IsAscending.eq_of_get?_eq (hp : p.IsAscending) (hq : q.IsAscending)
    (h : ∀ key, p.get? key = q.get? key) : p = q := by
  have hperm : p.entries.Perm q.entries := hp.perm_entries hq.names_ne h
  have hentries : p.entries = q.entries := by
    refine hperm.eq_of_pairwise (fun e f _ _ hlt hgt => ?_) hp hq
    exact absurd (String.lt_trans hlt hgt) (String.lt_irrefl _)
  exact congrArg mk hentries

/-! ## Later values -/

/-- **The last value that is set for a name is found**, or else the one that was there.  By
induction over what is set, with the properties left open. -/
theorem get?_insertAll (p : Properties) (entries : List (String × String)) (key : String) :
    (p.insertAll entries).get? key = (entries.reverse.lookup key).or (p.get? key) := by
  induction entries generalizing p with
  | nil => rfl
  | cons e rest ih =>
    have hcons : p.insertAll (e :: rest) = (p.insert e.1 e.2).insertAll rest := rfl
    rw [hcons, ih, get?_insert, List.reverse_cons, List.lookup_append, Option.or_assoc,
      List.lookup_cons, List.lookup_nil]
    by_cases hkey : key = e.1
    · rw [if_pos hkey, beq_iff_eq.mpr hkey, Option.some_or]
    · rw [if_neg hkey, beq_eq_false_iff_ne.mpr hkey, Option.none_or]

/-- Values of different names are all kept, and nothing else is. -/
theorem perm_insertAll (h : entries.Pairwise fun e f => e.1 ≠ f.1) :
    (empty.insertAll entries).entries.Perm entries := by
  refine isAscending_empty.insertAll.perm_entries h fun key => ?_
  rw [get?_insertAll, lookup_reverse h]
  exact Option.or_none

/-- A value of the second properties counts, or else one of the first. -/
theorem get?_merge (p : Properties) (hq : q.IsAscending) (key : String) :
    (p.merge q).get? key = (q.get? key).or (p.get? key) := by
  rw [merge, get?_insertAll, lookup_reverse hq.names_ne]
  rfl

/-- To merge what has been set is to set it.  The merge has fewer entries to set, but the last ones
of each name are among them. -/
theorem merge_insertAll (h : p.IsAscending) (entries : List (String × String)) :
    p.merge (empty.insertAll entries) = p.insertAll entries := by
  refine h.merge.eq_of_get?_eq h.insertAll fun key => ?_
  rw [get?_merge p isAscending_empty.insertAll, get?_insertAll, get?_insertAll]
  exact congrArg (Option.or · _) Option.or_none

/-- Values of two names can be set in any order, since the same values are found either way. -/
theorem insert_comm (h : p.IsAscending) {other value' : String} (hne : key ≠ other) :
    (p.insert key value).insert other value' = (p.insert other value').insert key value := by
  refine h.insert.insert.eq_of_get?_eq h.insert.insert fun k => ?_
  rw [get?_insert, get?_insert, get?_insert, get?_insert]
  by_cases hk : k = key
  · rw [if_neg (hk ▸ hne), if_pos hk, if_pos hk]
  · rw [if_neg hk, if_neg hk]

end RouteIndex.Properties
