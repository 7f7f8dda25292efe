/-
  What becomes of the values in a properties file.

  1. **Leaves** — `LeafAt` says where a value stands in nested tables, and the leaves of a document are
     all that stand in it (`mem_leaves_iff`, by recursion on the value).
  2. **Names** — a name consists of the keys on the way with dots between them, but empty keys in front
     leave no trace in it (`nameOf_eq_intercalate`).  So a path keeps all its keys unless it begins with
     an empty one and goes on (`nameOf_eq_intercalate_iff`).
  3. **`flatten_keeps_last_of_name`** — of all leaves of one name the last one is kept; so leaves of
     different names are all kept.  Leaves that differ in their keys may still have the same name, and
     then one of them is lost (`flatten_loses_leaf_under_empty_key`).
-/

import RouteIndex.Proofs.Properties
import RouteIndex.PropertiesFile

namespace RouteIndex.PropertiesFile

open Toml (Value)

/-! ## Leaves -/

/-- At the end of a path of keys through nested tables stands a value that is no table. -/
inductive LeafAt : Value → List String → Value → Prop where
  | here {v : Value} : (∀ entries, v ≠ .table entries) → LeafAt v [] v
  | inside {entries : List (String × Value)} {key : String} {inner v : Value} {path : List String} :
    (key, inner) ∈ entries → LeafAt inner path v → LeafAt (.table entries) (key :: path) v

/-- A leaf of a table is a leaf of the value under its first key.  This is the step of the
recursions below. -/
theorem leafAt_table_iff {entries : List (String × Value)} {path : List String} {w : Value} :
    LeafAt (.table entries) path w ↔
      ∃ e ∈ entries, ∃ rest, path = e.1 :: rest ∧ LeafAt e.2 rest w := by
  constructor
  · intro hleaf
    cases hleaf with
    | here h => exact absurd rfl (h entries)
    | inside hmem hleaf => exact ⟨_, hmem, _, rfl, hleaf⟩
  · rintro ⟨e, hmem, rest, rfl, hleaf⟩
    exact .inside hmem hleaf

/-- A value that is no table is the only leaf in it, at the path where it stands. -/
theorem mem_leavesOf_of_ne_table {v : Value} (h : ∀ entries, v ≠ .table entries)
    {leaf : List String × Value} {path : List String} :
    leaf ∈ leavesOf path v ↔ ∃ rest, leaf.1 = path ++ rest ∧ LeafAt v rest leaf.2 := by
  rw [leavesOf, List.mem_singleton]
  · constructor
    · rintro rfl
      exact ⟨[], (List.append_nil path).symm, .here h⟩
    · rintro ⟨rest, hpath, hleaf⟩
      cases hleaf with
      | here => exact Prod.ext (hpath.trans (List.append_nil path)) rfl
      | inside => exact absurd rfl (h _)
  · exact h

mutual

/-- The leaves of a value are those that the relation has, each behind the path that has led to the
value.  The recursion is on the value and on the entries of its tables together. -/
theorem mem_leavesOf_iff (leaf : List String × Value) : ∀ (v : Value) (path : List String),
    leaf ∈ leavesOf path v ↔ ∃ rest, leaf.1 = path ++ rest ∧ LeafAt v rest leaf.2
  | .table entries, path => by
    rw [leavesOf, mem_leaves_of_path_iff leaf entries path]
    simp only [leafAt_table_iff]
    -- the way on into a table begins with one of its keys
    constructor
    · rintro ⟨e, hmem, rest, hpath, hleaf⟩
      exact ⟨e.1 :: rest, hpath, e, hmem, rest, rfl, hleaf⟩
    · rintro ⟨_, hpath, e, hmem, rest, rfl, hleaf⟩
      exact ⟨e, hmem, rest, hpath, hleaf⟩
  | .text _, _ | .int _, _ | .fractional _, _ | .bool _, _ | .moment _, _ | .array _, _ =>
    mem_leavesOf_of_ne_table (by nofun)

/-- The same for the entries of a table, one after the other. -/
theorem mem_leaves_of_path_iff (leaf : List String × Value) :
    ∀ (entries : List (String × Value)) (path : List String), leaf ∈ leaves path entries ↔
      ∃ e ∈ entries, ∃ rest, leaf.1 = path ++ e.1 :: rest ∧ LeafAt e.2 rest leaf.2
  | [], _ => by simp [leaves]
  | (key, v) :: entries, path => by
    rw [leaves, List.mem_append, mem_leavesOf_iff leaf v, mem_leaves_of_path_iff leaf entries]
    simp only [List.mem_cons, exists_eq_or_imp, List.append_assoc, List.singleton_append]

end

/-- **The leaves of a document are all the values in it that are no tables.** The listing puts them
in an order; which ones there are is told without it. -/
theorem mem_leaves_iff {entries : List (String × Value)} {path : List String} {v : Value} :
    (path, v) ∈ leaves [] entries ↔ LeafAt (.table entries) path v := by
  rw [mem_leaves_of_path_iff, leafAt_table_iff]
  simp only [List.nil_append]

/-! ## Names -/

/-- What stands in front of the first text stands in front of the whole. -/
theorem intercalate_append_cons (s a b : String) (l : List String) :
    s.intercalate ((a ++ b) :: l) = a ++ s.intercalate (b :: l) := by
  cases l with
  | nil => rw [String.intercalate_singleton, String.intercalate_singleton]
  | cons c l =>
    rw [String.intercalate_cons_cons, String.intercalate_cons_cons]
    simp only [String.append_assoc]

/-- Behind a name every key stands after a dot, an empty one too.  Only a name that is still empty
is replaced by the key. -/
theorem foldl_extendName (path : List String) : ∀ {name : String}, name ≠ "" →
    path.foldl extendName name = ".".intercalate (name :: path) := by
  induction path with
  | nil => exact fun _ => String.intercalate_singleton.symm
  | cons key path ih =>
    intro name hname
    have hextend : extendName name key = name ++ "." ++ key := by
      rw [extendName, if_neg fun hempty => hname (String.isEmpty_iff.mp hempty)]
    have hne : name ++ "." ++ key ≠ "" := by
      intro hempty
      exact hname (String.append_eq_empty_iff.mp (String.append_eq_empty_iff.mp hempty).1).1
    rw [List.foldl_cons, hextend, ih hne, intercalate_append_cons, String.intercalate_cons_cons]

/-- A path that begins with a key that is not empty is named by all its keys. -/
theorem nameOf_cons_of_ne {key : String} (h : key ≠ "") (path : List String) :
    nameOf (key :: path) = ".".intercalate (key :: path) :=
  foldl_extendName path h

/-- An empty key in front leaves no trace in a name, for the name is still empty behind it, as if no
key had come. -/
theorem nameOf_empty_cons (path : List String) : nameOf ("" :: path) = nameOf path :=
  rfl

/-- **A name consists of the keys on the way, without the empty ones in front.** By induction over
those, with the two laws above. -/
theorem nameOf_eq_intercalate (path : List String) :
    nameOf path = ".".intercalate (path.dropWhile (·.isEmpty)) := by
  induction path with
  | nil => rfl
  | cons key path ih =>
    by_cases hkey : key = ""
    · subst hkey
      exact ih
    · have hkept : ¬ key.isEmpty = true := fun hempty => hkey (String.isEmpty_iff.mp hempty)
      rw [nameOf_cons_of_ne hkey, List.dropWhile_cons_of_neg hkept]

/-- A name is never longer than all keys with dots between them.  Where an empty key in front is
swallowed its dot is missing, so the two are told apart by their lengths. -/
theorem length_nameOf_le (path : List String) :
    (nameOf path).length ≤ (".".intercalate path).length := by
  induction path with
  | nil => exact Nat.le_refl 0
  | cons key path ih =>
    by_cases hkey : key = ""
    · subst hkey
      rw [nameOf_empty_cons]
      cases path with
      | nil => exact ih
      | cons next path =>
        rw [String.intercalate_cons_cons, String.length_append]
        omega
    · exact Nat.le_of_eq (congrArg String.length (nameOf_cons_of_ne hkey path))

/-- A path that begins with an empty key and goes on. -/
def IsHidden (path : List String) : Prop :=
  ∃ key rest, path = "" :: key :: rest

/-- Exactly the hidden paths have other names than all their keys make: for any other path nothing
is dropped, or it is one empty key, whose name is empty anyway. -/
theorem nameOf_eq_intercalate_iff {path : List String} :
    nameOf path = ".".intercalate path ↔ ¬ IsHidden path := by
  constructor
  · rintro heq ⟨key, rest, rfl⟩
    -- the keys behind the empty one make all of the name, and the dot in front of them is missing
    have hshort := length_nameOf_le (key :: rest)
    have hlong : (".".intercalate ("" :: key :: rest)).length =
        1 + (".".intercalate (key :: rest)).length := by
      rw [String.intercalate_cons_cons, String.length_append]
      rfl
    rw [nameOf_empty_cons] at heq
    rw [heq, hlong] at hshort
    omega
  · intro hshown
    match path with
    | [] => rfl
    | [key] => exact String.intercalate_singleton.symm
    | key :: next :: rest =>
      refine nameOf_cons_of_ne (fun hkey => hshown ⟨next, rest, ?_⟩) _
      rw [hkey]

/-! ## Values -/

/-- What a value is as a property: a text is taken as it is, any other value as it is written.  A moment
is written as the table that stands for one. -/
inductive Tells : Value → String → Prop where
  | text (s : String) : Tells (.text s) s
  | moment (m : Toml.Moment) : Tells (.moment m)
    (String.ofList (Value.table [(Toml.momentKey, .text (String.ofList m.text))]).write)
  | written {v : Value} : (∀ s, v ≠ .text s) → (∀ m, v ≠ .moment m) → Tells v (String.ofList v.write)

/-- Every value has a text that it tells, by its kind. -/
theorem tells_valueText (v : Value) : Tells v (valueText v) := by
  cases v with
  | text s => exact .text s
  | moment m =>
    have hwritten : valueText (.moment m) =
        String.ofList (Value.table [(Toml.momentKey, .text (String.ofList m.text))]).write := by
      simp only [valueText, Value.write, Value.writeEntries]
      simp
    rw [hwritten]
    exact .moment m
  | _ => exact .written (by nofun) (by nofun)

/-! ## Properties -/

/-- The last one of the leaves that have a name, since each value that is set takes the place of the
one before. -/
theorem get?_flatten (entries : List (String × Value)) (name : String) :
    (flatten entries).get? name =
      ((leaves [] entries).filter fun leaf => nameOf leaf.1 = name).getLast?.map
        fun leaf => valueText leaf.2 := by
  -- A later leaf overwrites an earlier one, so the look-up runs over the leaves from the end.
  have hlookup (ls : List (List String × Value)) : (ls.map property).lookup name =
      (ls.find? fun leaf => nameOf leaf.1 = name).map fun leaf => valueText leaf.2 := by
    induction ls with
    | nil => rfl
    | cons leaf ls ih =>
      rw [List.map_cons, property, List.lookup_cons, List.find?_cons]
      by_cases hname : nameOf leaf.1 = name
      · simp [hname]
      · have hne : (name == nameOf leaf.1) = false := beq_eq_false_iff_ne.mpr fun h => hname h.symm
        simp only [hne, hname, decide_false]
        exact ih
  rw [flatten, Properties.get?_insertAll, ← List.map_reverse, hlookup, List.getLast?_filter]
  exact Option.or_none

/-- Leaves of different names are the properties, one for one.  They may stand in another order, as
the map sorts them by their names. -/
theorem perm_flatten {entries : List (String × Value)}
    (h : (leaves [] entries).Pairwise (fun leaf other => nameOf leaf.1 ≠ nameOf other.1)) :
    (flatten entries).entries.Perm ((leaves [] entries).map property) :=
  Properties.perm_insertAll (List.pairwise_map.mpr h)

/-- **A leaf is lost only to a later one of the same name.**  The leaves of a document are the values in
it that are no tables, and each is named by the keys on the way to it, with dots between them; only
empty keys in front of others leave no trace in the name.  What is found under a name is the last leaf
that has it, so leaves of different names are the properties, one for one.  And where no leaf has an
empty key in front of others, it is enough that the keys with dots between them are different. -/
theorem flatten_keeps_last_of_name (entries : List (String × Value)) :
    (∀ path v, (path, v) ∈ leaves [] entries ↔ LeafAt (.table entries) path v) ∧
    (∀ v, Tells v (valueText v)) ∧
    (∀ path, nameOf path = ".".intercalate (path.dropWhile (·.isEmpty))) ∧
    (∀ path, nameOf path = ".".intercalate path ↔ ¬ IsHidden path) ∧
    (∀ name, (flatten entries).get? name =
      ((leaves [] entries).filter fun leaf => nameOf leaf.1 = name).getLast?.map
        fun leaf => valueText leaf.2) ∧
    ((leaves [] entries).Pairwise (fun leaf other => nameOf leaf.1 ≠ nameOf other.1) →
      (flatten entries).entries.Perm
        ((leaves [] entries).map fun leaf => (nameOf leaf.1, valueText leaf.2))) ∧
    ((∀ path v, LeafAt (.table entries) path v → ¬ IsHidden path) →
      (leaves [] entries).Pairwise
          (fun leaf other => ".".intercalate leaf.1 ≠ ".".intercalate other.1) →
        (flatten entries).entries.Perm
          ((leaves [] entries).map fun leaf => (".".intercalate leaf.1, valueText leaf.2))) := by
  refine ⟨fun _ _ => mem_leaves_iff, tells_valueText, nameOf_eq_intercalate,
    fun _ => nameOf_eq_intercalate_iff, get?_flatten entries, perm_flatten, fun hshown hdistinct => ?_⟩
  have hname : ∀ leaf ∈ leaves [] entries, nameOf leaf.1 = ".".intercalate leaf.1 :=
    fun leaf hleaf => nameOf_eq_intercalate_iff.mpr (hshown _ _ (mem_leaves_iff.mp hleaf))
  have hall := perm_flatten (hdistinct.imp_of_mem fun hleaf hother hne => by
    rwa [hname _ hleaf, hname _ hother])
  have hsame : (leaves [] entries).map property =
      (leaves [] entries).map fun leaf => (".".intercalate leaf.1, valueText leaf.2) :=
    List.map_congr_left fun leaf hleaf => Prod.ext (hname leaf hleaf) rfl
  rwa [hsame] at hall

/-! ## A lost leaf -/

/-- The entries of a text as they stand in it, with the keys of inner tables in order. -/
def draftEntries? (s : String) : Option (List (String × Value)) :=
  (Text.Scan.whole? Toml.lines s.toList).bind fun lines =>
    (Toml.Draft.addAll {} lines).bind fun draft => Toml.settleEntries? (Toml.entryValues draft.entries)

/-- Reading sorts what a draft of the document has, so that a value can be found in it before it is
sorted. -/
theorem toml_read?_eq (s : String) : Toml.read? s = (draftEntries? s).map Toml.sortEntries := by
  rw [Toml.read?, draftEntries?]
  cases Text.Scan.whole? Toml.lines s.toList with
  | none => rfl
  | some lines =>
    rw [Option.bind_some, Option.bind_some, Toml.document?]
    cases Toml.Draft.addAll {} lines with
    | none => rfl
    | some draft =>
      rw [Option.bind_eq_bind, Option.bind_some, Option.bind_some]
      cases Toml.settleEntries? (Toml.entryValues draft.entries) <;> rfl

/-- Two values, one of them under an empty key. -/
def hidingText : String :=
  "\"\".a = \"inner\"\na = \"top\"\n"

/-- **A leaf under an empty key may be lost**: it takes the name of another one, whose keys make a
different name. -/
theorem flatten_loses_leaf_under_empty_key : ∃ entries, Toml.read? hidingText = some entries ∧
    ((leaves [] entries).map fun leaf => (leaf.1, valueText leaf.2)) =
      [(["", "a"], "inner"), (["a"], "top")] ∧
    ".".intercalate ["", "a"] = ".a" ∧ ".".intercalate ["a"] = "a" ∧
    (flatten entries).get? ".a" = none ∧ (flatten entries).entries = [("a", "top")] := by
  -- sorting does not compute well; but the keys of the text ascend already
  have hdraft : (draftEntries? hidingText).map (fun entries => (entries.map (·.1),
      (leaves [] entries).map fun leaf => (leaf.1, valueText leaf.2), flatten entries)) =
      some (["", "a"], [(["", "a"], "inner"), (["a"], "top")], ⟨[("a", "top")]⟩) := by
    decide +kernel
  obtain ⟨entries, hentries, hview⟩ := Option.map_eq_some_iff.mp hdraft
  obtain ⟨hkeys, hboth⟩ := Prod.mk.inj hview
  obtain ⟨hleaves, hflatten⟩ := Prod.mk.inj hboth
  have hascends : (entries.map (·.1)).Pairwise fun key other => decide (key ≤ other) = true := by
    rw [hkeys]
    decide
  have hsorted : Toml.sortEntries entries = entries :=
    List.mergeSort_of_pairwise (List.pairwise_map.mp hascends)
  refine ⟨entries, ?_, hleaves, rfl, rfl, ?_, ?_⟩
  · rw [toml_read?_eq, hentries, Option.map_some, hsorted]
  · rw [hflatten]
    rfl
  · rw [hflatten]

end RouteIndex.PropertiesFile
