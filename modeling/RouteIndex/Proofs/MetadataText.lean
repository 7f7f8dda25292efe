/-
  Function records and diagnostics, written as JSON text and read again; and with them all metadata.

  A record is made of bindings and a policy, which are read back as they were
  (`Binding.ofText?_text`, `RetryPolicy.ofText?_text`); the rest of it are texts, and the position of
  its call site.  That position is a number of sixty-four bits, and so is that of a diagnostic: no
  other one is ever read (`FunctionRecord.lt_of_ofText?`), and every such one is read back.

  **`metadata_texts_lossless`** says of records, policies, bindings and diagnostics alike that nothing
  is lost between a value and its text, in whatever form the value is given at first.
-/

import RouteIndex.Diagnostic
import RouteIndex.FunctionRecord
import RouteIndex.Proofs.BindingText
import RouteIndex.Proofs.RetryText

namespace RouteIndex

/-- A reader that asks an object for some fields, and looks at nothing else, takes them in any order
and ignores all others. -/
theorem IsOpen.of_fields? {α : Type} {names : List String} {ofJson? : Json → Option α}
    (build : List (Option Json) → Option α)
    (h : ∀ j, ofJson? j = (j.fields? names).bind build) :
    IsOpen names (fun _ => true) ofJson? where
  any_order fields others hperm := by rw [h, h, Json.fields?_perm hperm]
  unknown fields key v hkey _ := by rw [h, h, Json.fields?_cons hkey]

/-! ## Bindings -/

namespace Binding

/-- The names of the fields of a binding. -/
def fieldNames : List String :=
  ["name", "type", "direction", "authLevel", "methods"]

/-- A binding is such a reader of its five fields. -/
theorem isOpen : IsOpen fieldNames (fun _ => true) ofJson? :=
  .of_fields? _ fun _ => rfl

end Binding

/-! ## Diagnostics -/

/-- A severity is read back from its name. -/
theorem Severity.ofJson?_name (s : Severity) : ofJson? (.text s.name) = some s := by
  cases s with
  | info => rfl
  | warning => rfl

namespace Diagnostic

/-- The names of the fields of a diagnostic. -/
def fieldNames : List String :=
  ["severity", "code", "message", "callSite"]

/-- So is a diagnostic, of its four fields. -/
theorem isOpen : IsOpen fieldNames (fun _ => true) ofJson? :=
  .of_fields? _ fun _ => rfl

/-- A diagnostic is read back from its JSON, if the position of its call site is a number of
sixty-four bits.  The other fields are texts. -/
theorem ofJson?_toJson (d : Diagnostic) (h : d.callSite < 2 ^ 64) : ofJson? d.toJson = some d := by
  obtain ⟨severity, code, message, callSite⟩ := d
  have hfields : (toJson ⟨severity, code, message, callSite⟩).fields?
      ["severity", "code", "message", "callSite"] =
      some [some (.text severity.name), some (.text code), some (.text message),
        some (.nat callSite)] := rfl
  have hseverity : Json.required Severity.ofJson? (some (.text severity.name)) = some severity :=
    severity.ofJson?_name
  have hposition : Json.required (Json.natBelow? 64) (some (.nat callSite)) = some callSite :=
    Json.natBelow?_nat h
  simp only [ofJson?, hfields, hseverity, hposition, Option.bind_eq_bind, Option.bind_some]
  rfl

/-- **A diagnostic is read back from its text.** -/
theorem ofText?_text (d : Diagnostic) (h : d.callSite < 2 ^ 64) : ofText? d.text = some d := by
  have hintegral : d.toJson.isIntegral = true := rfl
  rw [ofText?, text, Json.read?_compact hintegral]
  exact ofJson?_toJson d h

/-- No other position is ever read, so the condition above costs nothing: every diagnostic that
comes from a text meets it. -/
theorem lt_of_ofText? {s : String} {d : Diagnostic} (h : ofText? s = some d) :
    d.callSite < 2 ^ 64 := by
  obtain ⟨j, -, hj⟩ := Option.bind_eq_some_iff.mp h
  obtain ⟨given, -, hgiven⟩ := Option.bind_eq_some_iff.mp hj
  -- The bound is that of the reader of the index, whatever the other fields hold.
  split at hgiven
  · obtain ⟨severity, -, hgiven⟩ := Option.bind_eq_some_iff.mp hgiven
    obtain ⟨code, -, hgiven⟩ := Option.bind_eq_some_iff.mp hgiven
    obtain ⟨message, -, hgiven⟩ := Option.bind_eq_some_iff.mp hgiven
    obtain ⟨callSite, hposition, hgiven⟩ := Option.bind_eq_some_iff.mp hgiven
    obtain ⟨v, -, hv⟩ := Option.bind_eq_some_iff.mp hposition
    obtain rfl := Option.some.inj hgiven
    exact Json.lt_of_natBelow? hv
  · nomatch hgiven

end Diagnostic

/-! ## Records -/

namespace FunctionRecord

/-- The names of the fields of a record. -/
def fieldNames : List String :=
  ["callSite", "name", "scriptFile", "entryPoint", "language", "isHttpTrigger", "bindings", "retry"]

/-- And a record, of its eight; what the values of the fields are is left to their own readers. -/
theorem isOpen : IsOpen fieldNames (fun _ => true) ofJson? :=
  .of_fields? _ fun _ => rfl

/-- A missing name is written as null, and read as missing. -/
theorem optional_nameJson (name : Option String) :
    Json.optional Json.text? (some (nameJson name)) = some name := by
  cases name with
  | none => rfl
  | some name => rfl

/-- The only numbers of a record are integers. -/
theorem isIntegral_toJson (r : FunctionRecord) : r.toJson.isIntegral = true := by
  have hname : (nameJson r.name).isIntegral = true := by cases r.name <;> rfl
  have hbindings : (Json.arr (r.bindings.map Binding.toJson)).isIntegral = true :=
    Json.isIntegral_arr_map Binding.isIntegral_toJson r.bindings
  refine Json.isIntegral_object fun f hf => ?_
  simp only [List.mem_cons, List.not_mem_nil, or_false] at hf
  rcases hf with rfl | rfl | rfl | rfl | rfl | rfl | rfl | rfl
  · rfl
  · exact hname
  · rfl
  · rfl
  · rfl
  · rfl
  · exact hbindings
  · exact r.retry.isIntegral_toJson

/-- A record is read from its fields, in whatever form its bindings and its policy are given.  They
may come from a document whose keys have been sorted. -/
theorem ofJson?_object (r : FunctionRecord) (h : r.callSite < 2 ^ 64) {bindings retry : Json}
    (hbindings : Json.items? Binding.ofJson? bindings = some r.bindings)
    (hretry : RetryPolicy.ofJson? (RetryPolicy.maxLevels - 1) retry = some r.retry) :
    ofJson? (.object [("callSite", .nat r.callSite), ("name", nameJson r.name),
      ("scriptFile", .text r.scriptFile), ("entryPoint", .text r.entryPoint),
      ("language", .text r.language), ("isHttpTrigger", .bool r.isHttpTrigger),
      ("bindings", bindings), ("retry", retry)]) = some r := by
  obtain ⟨callSite, name, scriptFile, entryPoint, language, isHttpTrigger, bs, policy⟩ := r
  have hfields : (Json.object [("callSite", .nat callSite), ("name", nameJson name),
      ("scriptFile", .text scriptFile), ("entryPoint", .text entryPoint),
      ("language", .text language), ("isHttpTrigger", .bool isHttpTrigger),
      ("bindings", bindings), ("retry", retry)]).fields? fieldNames =
      some [some (.nat callSite), some (nameJson name), some (.text scriptFile),
        some (.text entryPoint), some (.text language), some (.bool isHttpTrigger),
        some bindings, some retry] := rfl
  -- The fields that need a lemma; the others are read back by computation.
  have hposition : Json.orElse 0 (Json.natBelow? 64) (some (.nat callSite)) = some callSite :=
    Json.natBelow?_nat h
  have hlist : Json.required (Json.items? Binding.ofJson?) (some bindings) = some bs := hbindings
  have hpolicy : Json.orElse .none (RetryPolicy.ofJson? (RetryPolicy.maxLevels - 1)) (some retry) =
      some policy := hretry
  have hname := optional_nameJson name
  rw [fieldNames] at hfields
  simp only [ofJson?, hfields, hposition, hname, hlist, hpolicy, Option.bind_eq_bind,
    Option.bind_some]
  rfl

/-- A record is read back from its JSON. -/
theorem ofJson?_toJson (r : FunctionRecord) (h : r.callSite < 2 ^ 64) : ofJson? r.toJson = some r :=
  r.ofJson?_object h (Json.items?_map Binding.ofJson?_toJson r.bindings) (r.retry.ofJson?_toJson _)

/-- **A record is read back from its text**, with all bindings in their order and the whole policy. -/
theorem ofText?_text (r : FunctionRecord) (h : r.callSite < 2 ^ 64) : ofText? r.text = some r := by
  rw [ofText?, text, Json.read?_compact r.isIntegral_toJson]
  exact ofJson?_toJson r h

/-- No record with another position is ever read. -/
theorem lt_of_ofText? {s : String} {r : FunctionRecord} (h : ofText? s = some r) :
    r.callSite < 2 ^ 64 := by
  obtain ⟨j, -, hj⟩ := Option.bind_eq_some_iff.mp h
  obtain ⟨given, -, hgiven⟩ := Option.bind_eq_some_iff.mp hj
  split at hgiven
  · rename_i place _ _ _ _ _ _ _
    obtain ⟨callSite, hposition, hgiven⟩ := Option.bind_eq_some_iff.mp hgiven
    obtain ⟨name, -, hgiven⟩ := Option.bind_eq_some_iff.mp hgiven
    obtain ⟨scriptFile, -, hgiven⟩ := Option.bind_eq_some_iff.mp hgiven
    obtain ⟨entryPoint, -, hgiven⟩ := Option.bind_eq_some_iff.mp hgiven
    obtain ⟨language, -, hgiven⟩ := Option.bind_eq_some_iff.mp hgiven
    obtain ⟨isHttpTrigger, -, hgiven⟩ := Option.bind_eq_some_iff.mp hgiven
    obtain ⟨bindings, -, hgiven⟩ := Option.bind_eq_some_iff.mp hgiven
    obtain ⟨retry, -, hgiven⟩ := Option.bind_eq_some_iff.mp hgiven
    obtain rfl := Option.some.inj hgiven
    cases place with
    | none =>
      rw [← Option.some.inj hposition]
      exact Nat.two_pow_pos 64
    | some v => exact Json.lt_of_natBelow? hposition
  · nomatch hgiven

end FunctionRecord

/-! ## All metadata -/

/-- **The texts of metadata lose nothing.**  Every record, policy, binding and diagnostic is read back
from its text, so no two of them have the same text; and whatever text one of them is read from, the
value and its own text stand for each other from then on.  An object may give the fields in any order,
the strategy of a policy included, and fields that are not known beside them. -/
theorem metadata_texts_lossless :
    (IsLossless (·.callSite < 2 ^ 64) FunctionRecord.text FunctionRecord.ofText? ∧
      IsLossless (fun _ => True) RetryPolicy.text RetryPolicy.ofText? ∧
      IsLossless (fun _ => True) Binding.text Binding.ofText? ∧
      IsLossless (·.callSite < 2 ^ 64) Diagnostic.text Diagnostic.ofText?) ∧
    IsOpen FunctionRecord.fieldNames (fun _ => true) FunctionRecord.ofJson? ∧
    IsOpen RetryPolicy.fieldNames (Json.fits 126) (RetryPolicy.ofJson? RetryPolicy.maxLevels) ∧
    IsOpen Binding.fieldNames (fun _ => true) Binding.ofJson? ∧
    IsOpen Diagnostic.fieldNames (fun _ => true) Diagnostic.ofJson? := by
  refine ⟨⟨.of_reads_back ?_ ?_, .of_reads_back ?_ ?_, .of_reads_back ?_ ?_, .of_reads_back ?_ ?_⟩,
    FunctionRecord.isOpen, RetryPolicy.isOpen 126, Binding.isOpen, Diagnostic.isOpen⟩
  · exact fun r hr => r.ofText?_text hr
  · exact fun s r h => FunctionRecord.lt_of_ofText? h
  · exact fun p _ => p.ofText?_text
  · exact fun _ _ _ => trivial
  · exact fun b _ => b.ofText?_text
  · exact fun _ _ _ => trivial
  · exact fun d hd => d.ofText?_text hd
  · exact fun s d h => Diagnostic.lt_of_ofText? h

end RouteIndex
