/-
  Values with their keys in order.

  1. **Shape** — sorting goes into every item and every field, and then moves the fields of an object
     (`sorted_object`); so each field is still found (`fields?_sorted`), and numbers stay what they are
     (`isIntegral_sorted`, by recursion on the value).
  2. **Reading** — a reader that takes fields in any order does not notice that they have been moved
     (`IsOpen.ofJson?_sorted`), and nothing at all where the values of the fields have no keys of their
     own (`IsOpen.ofJson?_sorted_of_flat`).
-/

import RouteIndex.Proofs.Json.Fields
import RouteIndex.Proofs.Json.Text

namespace RouteIndex

namespace Json

/-! ## Shape -/

/-- The items of an array are sorted one by one. -/
theorem sortedItems_eq_map (vs : List Json) : sortedItems vs = vs.map sorted := by
  induction vs with
  | nil => rfl
  | cons v vs ih => rw [sortedItems, ih, List.map_cons]

/-- The values of the fields are sorted one by one, with their keys left where they are. -/
theorem sortedFields_eq_map (fs : List (Option String × Json)) :
    sortedFields fs = fs.map fun f => (f.1, f.2.sorted) := by
  induction fs with
  | nil => rfl
  | cons f fs ih => rw [sortedFields, ih, List.map_cons]

/-- An array keeps the order of its items. -/
theorem sorted_arr (vs : List Json) : (arr vs).sorted = arr (vs.map sorted) := by
  rw [sorted, sortedItems_eq_map]

/-- A list of texts has no keys to sort. -/
theorem sorted_texts (ss : List String) : (texts ss).sorted = texts ss := by
  rw [texts, sorted_arr, List.map_map]
  rfl

/-- The fields of an object are sorted one by one, and then moved.  Where they are moved to does not
matter here. -/
theorem sorted_object (fs : List (String × Json)) : ∃ fields, (object fs).sorted = .obj fields ∧
    fields.Perm (fs.map fun f => (some f.1, f.2.sorted)) := by
  rw [object, sorted, sortedFields_eq_map, List.map_map]
  exact ⟨_, rfl, List.mergeSort_perm _ _⟩

/-- Fields are looked up in a sorted object as in the one that was sorted; only their values are
sorted ones. -/
theorem fields?_sorted (fs : List (String × Json)) (names : List String) :
    (object fs).sorted.fields? names = (object (fs.map fun f => (f.1, f.2.sorted))).fields? names := by
  obtain ⟨fields, hfields, hperm⟩ := sorted_object fs
  rw [hfields, object, List.map_map]
  exact fields?_perm hperm names

/-- A condition on all fields does not depend on their order. -/
theorem fieldsIntegral_eq_all (fs : List (Option String × Json)) :
    fieldsIntegral fs = fs.all fun f => f.2.isIntegral := by
  induction fs with
  | nil => rfl
  | cons f fs ih => rw [fieldsIntegral, ih, List.all_cons]

mutual

/-- Sorting makes no other numbers.  By recursion on the value, with its items and its fields. -/
theorem isIntegral_sorted : ∀ v : Json, v.sorted.isIntegral = v.isIntegral
  | .null | .bool _ | .int _ | .decimal _ | .str _ => by rw [sorted] <;> exact nofun
  | .arr items => by
    rw [sorted, isIntegral, isIntegral]
    exact itemsIntegral_sortedItems items
  | .obj fields => by
    have hmoved := (List.mergeSort_perm (sortedFields fields) fun f g => keyLe f.1 g.1).all_eq
      (f := fun f => f.2.isIntegral)
    rw [sorted, isIntegral, isIntegral, fieldsIntegral_eq_all, hmoved, ← fieldsIntegral_eq_all]
    exact fieldsIntegral_sortedFields fields

/-- `isIntegral_sorted` for the items of an array. -/
theorem itemsIntegral_sortedItems : ∀ vs : List Json,
    itemsIntegral (sortedItems vs) = itemsIntegral vs
  | [] => rfl
  | v :: vs => by
    rw [sortedItems, itemsIntegral, itemsIntegral, isIntegral_sorted v, itemsIntegral_sortedItems vs]

/-- `isIntegral_sorted` for the fields of an object. -/
theorem fieldsIntegral_sortedFields : ∀ fs : List (Option String × Json),
    fieldsIntegral (sortedFields fs) = fieldsIntegral fs
  | [] => rfl
  | (key, v) :: fs => by
    rw [sortedFields, fieldsIntegral, fieldsIntegral, isIntegral_sorted v,
      fieldsIntegral_sortedFields fs]

end

end Json

/-! ## Reading -/

variable {α : Type} {names : List String} {keeps : Json → Bool} {ofJson? : Json → Option α}

/-- **A reader of records does not see the order of the fields.** What is left of sorting are the
values of the fields, which may have keys of their own. -/
theorem IsOpen.ofJson?_sorted (h : IsOpen names keeps ofJson?) (fs : List (String × Json)) :
    ofJson? (Json.object fs).sorted = ofJson? (.object (fs.map fun f => (f.1, f.2.sorted))) := by
  obtain ⟨fields, hfields, hperm⟩ := Json.sorted_object fs
  rw [hfields, Json.object, List.map_map]
  exact h.any_order fields _ hperm

/-- Sorting leaves a record alone, if the values of its fields have no keys. -/
theorem IsOpen.ofJson?_sorted_of_flat (h : IsOpen names keeps ofJson?) {fs : List (String × Json)}
    (hflat : ∀ f ∈ fs, f.2.sorted = f.2) : ofJson? (Json.object fs).sorted = ofJson? (.object fs) := by
  have hsame : (fs.map fun f => (f.1, f.2.sorted)) = fs.map id :=
    List.map_congr_left fun f hf => Prod.ext rfl (hflat f hf)
  rw [h.ofJson?_sorted, hsame, List.map_id]

end RouteIndex
