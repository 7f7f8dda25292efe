/-
  Settings that a pass can use.

  Settings are accepted exactly if the assembly has a name and the namespace is one
  (`validate_eq_ok_iff`), and what is resolved is accepted (`of_resolve`).  Resolving looks at
  four properties and at no others (`resolve_congr`).
-/

import RouteIndex.Proofs.Text.Blank
import RouteIndex.Settings

namespace RouteIndex.Settings

variable {settings : Settings}

/-- **Settings are accepted exactly if the assembly has a name and the namespace is one.** The name
is looked at first, and one of blanks counts as none. -/
theorem validate_eq_ok_iff : settings.validate = .ok () ↔
    (∃ c ∈ settings.assemblyName.toList, Text.isBlank c = false) ∧
      Namespace.isValid settings.nameSpace = true := by
  rw [validate, ← Text.isBlankText_eq_false_iff]
  cases Text.isBlankText settings.assemblyName.toList with
  | true =>
    refine iff_of_false ?_ fun h => absurd h.1.symm Bool.false_ne_true
    intro h
    cases h
  | false =>
    cases Namespace.isValid settings.nameSpace with
    | true => exact iff_of_true rfl ⟨rfl, rfl⟩
    | false =>
      refine iff_of_false ?_ fun h => absurd h.2 Bool.false_ne_true
      intro h
      cases h

/-- With a valid namespace, only the name can be missing. -/
theorem eq_missing_of_validate_eq_error {e : Error} (h : settings.validate = .error e)
    (hvalid : Namespace.isValid settings.nameSpace = true) : e = .missingAssemblyName := by
  rw [validate, hvalid] at h
  split at h
  · exact (Except.error.inj h).symm
  · cases h

/-! ## What is resolved -/

/-- Settings that have been resolved are accepted, and their switches are the ones that are asked
for. -/
theorem of_resolve {env : Environment} {p : Properties} {explicit : Option String}
    (h : resolve env p explicit = .ok settings) : settings.validate = .ok () ∧
      settings.enabled = switch env.enableGeneration p enableKey ∧
      settings.autoRegister = switch env.autoRegister p autoRegisterKey := by
  rw [resolve] at h
  split at h
  · cases h
  · simp only at h
    split at h
    · rename_i haccepted
      cases h
      exact ⟨haccepted, rfl, rfl⟩
    · cases h

/-- What has been resolved can be used by a pass. -/
theorem validate_of_resolve {env : Environment} {p : Properties} {explicit : Option String}
    (h : resolve env p explicit = .ok settings) : settings.validate = .ok () :=
  (of_resolve h).1

/-- The properties that settings are made of. -/
def keys : List String :=
  [enableKey, autoRegisterKey, namespaceKey, assemblyKey]

/-- Other properties do not matter: all four are looked up by their names. -/
theorem resolve_congr {p q : Properties} (h : ∀ key ∈ keys, p.get? key = q.get? key)
    (env : Environment) (explicit : Option String) : resolve env p explicit = resolve env q explicit := by
  have hswitch (override : Option String) {key : String} (hkey : key ∈ keys) :
      switch override p key = switch override q key := by
    cases override with
    | some value => rfl
    | none => rw [switch, switch, Properties.isYes, Properties.isYes, h key hkey]
  rw [resolve, resolve, h assemblyKey (by decide), h namespaceKey (by decide),
    hswitch env.enableGeneration (by decide), hswitch env.autoRegister (by decide)]

end RouteIndex.Settings
