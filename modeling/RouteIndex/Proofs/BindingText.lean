/-
  Bindings, written as JSON text and read again.

  A binding is read back from its text as it was (`Binding.ofText?_text`): its JSON has texts only,
  so `Json.read?_write` gives that JSON again, and the reader finds each field once.  The text
  stands on one line, whatever the strings in the binding are (`Binding.printable_text`).
-/

import RouteIndex.Binding
import RouteIndex.Proofs.Json.Fields
import RouteIndex.Proofs.Json.Text

namespace RouteIndex

/-- A direction is read back from its name. -/
theorem Direction.ofJson?_name (d : Direction) : ofJson? (.text d.name) = some d := by
  cases d with
  | input => rfl
  | output => rfl

/-- So is a level of authorization, which has one of three names. -/
theorem AuthLevel.ofJson?_name (level : AuthLevel) : ofJson? (.text level.name) = some level := by
  cases level with
  | anonymous => rfl
  | function => rfl
  | admin => rfl

namespace Json

theorem isIntegral_texts (ss : List String) : (texts ss).isIntegral = true :=
  isIntegral_arr_map (fun _ => rfl) ss

end Json

namespace Binding

/-- The JSON of a binding has texts only, so there is no number in it that could be rounded. -/
theorem isIntegral_toJson (b : Binding) : b.toJson.isIntegral = true := by
  refine Json.isIntegral_object fun f hf => ?_
  rcases List.mem_append.mp hf with hf | hf
  · rcases List.mem_append.mp hf with hf | hf
    · simp only [List.mem_cons, List.not_mem_nil, or_false] at hf
      rcases hf with rfl | rfl | rfl <;> rfl
    · cases hlevel : b.authLevel with
      | none => simp [hlevel] at hf
      | some level =>
        simp only [hlevel, List.mem_singleton] at hf
        rw [hf]
        rfl
  · cases hmethods : b.methods with
    | none => simp [hmethods] at hf
    | some methods =>
      simp only [hmethods, List.mem_singleton] at hf
      rw [hf]
      exact Json.isIntegral_texts methods

/-- A binding is read back from its JSON.  A field that is left out is read as one that is not
there. -/
theorem ofJson?_toJson (b : Binding) : ofJson? b.toJson = some b := by
  obtain ⟨name, type, direction, authLevel, methods⟩ := b
  have hfields : (toJson ⟨name, type, direction, authLevel, methods⟩).fields?
      ["name", "type", "direction", "authLevel", "methods"] =
      some [some (.text name), some (.text type), some (.text direction.name),
        authLevel.map fun level => .text level.name, methods.map Json.texts] := by
    cases authLevel with
    | none => cases methods <;> rfl
    | some level => cases methods <;> rfl
  have hlevel : Json.optional AuthLevel.ofJson? (authLevel.map fun level => .text level.name) =
      some authLevel := by
    cases authLevel with
    | none => rfl
    | some level => exact congrArg (Option.map some) level.ofJson?_name
  have hmethods : Json.optional (Json.items? Json.text?) (methods.map Json.texts) = some methods := by
    cases methods with
    | none => rfl
    | some methods =>
      have htext (s : String) : Json.text? (.text s) = some s := rfl
      exact congrArg (Option.map some) (Json.items?_map htext methods)
  have hdirection : Json.required Direction.ofJson? (some (.text direction.name)) = some direction :=
    direction.ofJson?_name
  simp only [ofJson?, hfields, hlevel, hmethods, hdirection, Option.bind_eq_bind, Option.bind_some]
  rfl

/-- **A binding is read back from its text.** Readers of a provider rely on this, since the text is
all that they have of a binding. -/
theorem ofText?_text (b : Binding) : ofText? b.text = some b := by
  rw [ofText?, text, Json.read?_compact b.isIntegral_toJson]
  exact ofJson?_toJson b

/-- The text of a binding has no control character. -/
theorem printable_text (b : Binding) : Json.Printable b.text.toList :=
  Json.printable_compact b.isIntegral_toJson

end Binding

end RouteIndex
