/-
  Bindings in the source of a provider.

  A binding goes through two layers on its way into the file: its strings are escaped in its JSON
  text, and the quotes of that text are doubled in a verbatim literal.  So quotes stand next to each
  other, and it is their number that says where the literal ends.

  1. **Ending** — the literal of a text ends with its last quote if no other one follows, and goes on
     otherwise (`verbatim?_append_iff`).
  2. **Body** — doubling adds no character but quotes, so the body is as printable as the JSON text
     (`printable_verbatimBody`).
  3. **`binding_read_from_literal`** — a binding is read back from its literal, in front of every text
     in which the literal ends, and from every line of a file that adds it.
-/

import RouteIndex.Proofs.Provider.Reading

namespace RouteIndex.Provider

/-- **The literal of a text ends exactly where no quote follows.** -/
theorem verbatim?_append_iff (s : String) (rest : List Char) :
    verbatim? ((verbatimLiteral s).toList ++ rest) = some (s, rest) ↔ rest.head? ≠ some '"' :=
  verbatim?_eq_some_iff.trans (and_iff_right rfl)

/-- The characters between the quotes of a literal are those of its text. -/
theorem mem_verbatimBody_iff {s : String} {c : Char} :
    c ∈ (verbatimBody s).toList ↔ c ∈ s.toList := by
  rw [verbatimBody, String.toList_ofList, mem_flatMap_doubleQuote_iff]

/-- A printable text stays printable. -/
theorem printable_verbatimBody {s : String} (h : Json.Printable s.toList) :
    Json.Printable (verbatimBody s).toList :=
  fun c hc => h c (mem_verbatimBody_iff.mp hc)

/-- **A binding is read back from its literal.**  Whatever strings are in it, and whatever follows:
the literal ends in front of the following text exactly if that does not begin with a quote; its value
is the JSON text of the binding, from which the binding is read; and no line feed and no carriage
return stands in its body, nor any other control character.  In a file the literal is followed by the
end of a call, so each line that adds a binding gives that binding. -/
theorem binding_read_from_literal (b : Binding) (rest : List Char) :
    (verbatim? ((verbatimLiteral b.text).toList ++ rest) = some (b.text, rest) ↔
      rest.head? ≠ some '"') ∧
    Binding.ofText? b.text = some b ∧
    ('\n' ∉ (verbatimBody b.text).toList ∧ '\r' ∉ (verbatimBody b.text).toList ∧
      Json.Printable (verbatimBody b.text).toList) ∧
    ∀ r : FunctionRecord, b ∈ r.bindings → bindingLine r.callSite b ∈ functionLines r ∧
      binding? r.callSite [bindingLine r.callSite b] = some (b, []) := by
  have hbody := printable_verbatimBody b.printable_text
  refine ⟨verbatim?_append_iff b.text rest, b.ofText?_text, ⟨?_, ?_, hbody⟩, fun r hb => ⟨?_, ?_⟩⟩
  · intro hmem
    exact absurd (hbody '\n' hmem) (by decide)
  · intro hmem
    exact absurd (hbody '\r' hmem) (by decide)
  · simp only [functionLines, List.mem_append, List.mem_map]
    exact Or.inl (Or.inl (Or.inl (Or.inr ⟨b, hb, rfl⟩)))
  · exact binding?_cons r.callSite b []

end RouteIndex.Provider
