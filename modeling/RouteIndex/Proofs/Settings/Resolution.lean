/-
  Settings, resolved from their sources.

  1. **Sources** — a source that is given counts, even a blank one, and only then the next one is
     looked at: so there is a given name (`givenName`) and a namespace that is asked for
     (`askedNamespace`), or there is none.
  2. **Outcomes** — without a name nothing is resolved (`resolve_of_unnamed`).  With a name, the
     namespace is the one asked for, or else the one of the assembly, and it is all that can be
     refused (`resolve_of_named`).
  3. **What is refused** — since the namespace of an assembly is always valid, only one that is asked
     for can be refused (`isValid_chosenNamespace_iff`); everything else gives settings that are
     accepted (**`resolve_fails_exactly_when_unusable`**).
-/

import RouteIndex.Proofs.Namespace.Grammar

namespace RouteIndex.Settings

/-! ## Sources -/

/-- The name of the assembly as it is given: the explicit one, even a blank one, or else the property. -/
def givenName (p : Properties) : Option String → Option String
  | some name => some name
  | none => p.get? assemblyKey

/-- The namespace that is asked for, without blanks at its ends: by the environment, even a blank one,
or else by the property. -/
def askedNamespace (env : Environment) (p : Properties) : Option String :=
  match env.nameSpace with
  | some given => some (Text.strip given)
  | none => (p.get? namespaceKey).map Text.strip

/-- A value that is not blank is what is left of it without blanks at its ends, unless that is
empty. -/
theorem nonBlank?_eq_filter (s : String) :
    nonBlank? s = (some (Text.strip s)).filter (· ≠ "") := by
  simp only [nonBlank?, Text.isEmpty_trim, ← Text.strip_eq_empty_iff]
  by_cases h : Text.strip s = ""
  · rw [if_pos h, Option.filter_some_neg (by simp [h])]
  · rw [if_neg h, Option.filter_some_pos (by simp [h])]
    rfl

variable {env : Environment} {p : Properties} {explicit : Option String} {name : String}

/-- The namespace that the code goes on with is the one that is asked for, unless it is empty. -/
theorem bind_nonBlank?_askedNamespace : (env.nameSpace.or (p.get? namespaceKey)).bind nonBlank? =
    (askedNamespace env p).filter (· ≠ "") := by
  unfold askedNamespace
  cases env.nameSpace with
  | some given => exact nonBlank?_eq_filter given
  | none =>
    cases p.get? namespaceKey with
    | some given => exact nonBlank?_eq_filter given
    | none => rfl

/-- The name that the code goes on with is the given one, unless it is blank. -/
theorem bind_nonBlank?_givenName :
    (explicit.or (p.get? assemblyKey)).bind nonBlank? = (givenName p explicit).bind nonBlank? := by
  cases explicit <;> rfl

/-! ## Outcomes -/

/-- Without a name nothing is resolved, whatever else is given: the namespace is not even looked
at. -/
theorem resolve_of_unnamed
    (h : ∀ name, givenName p explicit = some name → Text.isBlankText name.toList = true) :
    resolve env p explicit = .error .missingAssemblyName := by
  have hnone : (givenName p explicit).bind nonBlank? = none := by
    cases hname : givenName p explicit with
    | none => rfl
    | some name =>
      rw [Option.bind_some, nonBlank?_eq_filter, Text.strip_eq_empty_iff.mpr (h name hname)]
      rfl
  rw [resolve, bind_nonBlank?_givenName, hnone]

variable (env p name) in
/-- The namespace of the settings: the one that is asked for, unless that is empty, or else the one of
the assembly. -/
def chosenNamespace : String :=
  ((askedNamespace env p).filter (· ≠ "")).getD (Namespace.ofAssembly name)

/-- A namespace that is asked for is the one of the settings. -/
theorem chosenNamespace_of_asked {given : String} (h : askedNamespace env p = some given)
    (hne : given ≠ "") : chosenNamespace env p name = given := by
  rw [chosenNamespace, h, Option.filter_some_pos (by simp [hne]), Option.getD_some]

/-- Without one, the settings have the namespace of the assembly. -/
theorem chosenNamespace_of_not_asked
    (h : ∀ given, askedNamespace env p = some given → given = "") :
    chosenNamespace env p name = Namespace.ofAssembly name := by
  have hnone : (askedNamespace env p).filter (· ≠ "") = none := by
    rw [Option.filter_eq_none_iff]
    intro given hgiven
    simp [h given hgiven]
  rw [chosenNamespace, hnone, Option.getD_none]

variable (env p name) in
/-- The settings with that namespace. -/
def settingsFor : Settings where
  enabled := switch env.enableGeneration p enableKey
  autoRegister := switch env.autoRegister p autoRegisterKey
  assemblyName := Text.strip name
  nameSpace := chosenNamespace env p name

/-- With a name, only the namespace is checked, for the name is no longer blank. -/
theorem validate_settingsFor (hblank : Text.isBlankText name.toList = false) :
    (settingsFor env p name).validate =
      if Namespace.isValid (chosenNamespace env p name) then .ok ()
      else .error (.invalidNamespace (chosenNamespace env p name)) := by
  have hname : Text.isBlankText (Text.strip name).toList = false := by
    rw [Text.strip, String.toList_ofList, Text.isBlankText_trim, hblank]
  rw [validate, settingsFor, hname]
  exact if_neg Bool.false_ne_true

/-- **With a name, resolving is the check of the namespace**: the settings or the error that names
it. -/
theorem resolve_of_named (hname : givenName p explicit = some name)
    (hblank : Text.isBlankText name.toList = false) :
    resolve env p explicit =
      if Namespace.isValid (chosenNamespace env p name) then .ok (settingsFor env p name)
      else .error (.invalidNamespace (chosenNamespace env p name)) := by
  have hstrip : Text.strip name ≠ "" := by
    rw [ne_eq, Text.strip_eq_empty_iff, hblank]
    exact Bool.false_ne_true
  have hgiven : (givenName p explicit).bind nonBlank? = some (Text.strip name) := by
    rw [hname, Option.bind_some, nonBlank?_eq_filter, Option.filter_some_pos (by simp [hstrip])]
  -- Trimming the name first changes nothing in the namespace that is derived from it.
  have hsettings : Settings.mk (switch env.enableGeneration p enableKey)
      (switch env.autoRegister p autoRegisterKey) (Text.strip name)
      (((askedNamespace env p).filter (· ≠ "")).getD (Namespace.ofAssembly (Text.strip name))) =
      settingsFor env p name := by
    rw [Namespace.ofAssembly_strip]
    rfl
  rw [resolve, bind_nonBlank?_givenName, hgiven]
  simp only [bind_nonBlank?_askedNamespace, hsettings, validate_settingsFor hblank]
  by_cases hvalid : Namespace.isValid (chosenNamespace env p name)
  · rw [if_pos hvalid, if_pos hvalid]
  · rw [if_neg hvalid, if_neg hvalid]

/-! ## What is refused -/

variable (env p) in
/-- The namespace that is asked for is none, and it is not empty either. -/
structure IsRefused (given : String) : Prop where
  asked : askedNamespace env p = some given
  ne_empty : given ≠ ""
  not_dotted : ¬ Namespace.IsDotted given

variable (env p name) in
/-- Settings that a pass can use, with the given name and the namespace that is asked for, or else the
one of the assembly. -/
structure IsResolved (settings : Settings) : Prop where
  accepted : settings.validate = .ok ()
  assemblyName : settings.assemblyName = Text.strip name
  asked : ∀ given, askedNamespace env p = some given → given ≠ "" → settings.nameSpace = given
  derived : (∀ given, askedNamespace env p = some given → given = "") →
    settings.nameSpace = Namespace.ofAssembly name

/-- The namespace of an assembly is always valid, so only one that is asked for can be refused. -/
theorem isValid_chosenNamespace_iff :
    Namespace.isValid (chosenNamespace env p name) = true ↔ ∀ given, ¬ IsRefused env p given := by
  by_cases hasked : ∃ given, askedNamespace env p = some given ∧ given ≠ ""
  · obtain ⟨given, hgiven, hne⟩ := hasked
    rw [chosenNamespace_of_asked hgiven hne, Namespace.isValid_iff]
    constructor
    · rintro hdotted other ⟨hother, -, hnot⟩
      rw [hgiven, Option.some_inj] at hother
      exact hnot (hother ▸ hdotted)
    · intro hnone
      exact Classical.not_not.mp fun hnot => hnone given ⟨hgiven, hne, hnot⟩
  · -- A namespace that nobody asked for is the derived one, which is always valid.
    have hnot (given : String) (hgiven : askedNamespace env p = some given) : given = "" :=
      Classical.not_not.mp fun hne => hasked ⟨given, hgiven, hne⟩
    rw [chosenNamespace_of_not_asked hnot]
    refine iff_of_true (Namespace.isValid_ofAssembly name) ?_
    rintro given ⟨hgiven, hne, -⟩
    exact hne (hnot given hgiven)

/-- The error names the namespace that is refused, without blanks at its ends.  It is one that was
asked for: the namespace of the assembly is never refused. -/
theorem resolve_eq_invalidNamespace_iff {given : String} (hname : givenName p explicit = some name)
    (hblank : Text.isBlankText name.toList = false) :
    resolve env p explicit = .error (.invalidNamespace given) ↔ IsRefused env p given := by
  rw [resolve_of_named hname hblank]
  constructor
  · intro h
    by_cases hvalid : Namespace.isValid (chosenNamespace env p name) = true
    · rw [if_pos hvalid] at h
      cases h
    · rw [if_neg hvalid] at h
      cases h
      rw [isValid_chosenNamespace_iff] at hvalid
      obtain ⟨given, hrefused⟩ := Classical.not_forall_not.mp hvalid
      rwa [chosenNamespace_of_asked hrefused.asked hrefused.ne_empty]
  · intro hrefused
    rw [if_neg fun hvalid => isValid_chosenNamespace_iff.mp hvalid given hrefused,
      chosenNamespace_of_asked hrefused.asked hrefused.ne_empty]

/-- If nothing is refused there are settings, and a pass can use them. -/
theorem resolve_of_not_refused (hname : givenName p explicit = some name)
    (hblank : Text.isBlankText name.toList = false) (hnone : ∀ given, ¬ IsRefused env p given) :
    resolve env p explicit = .ok (settingsFor env p name) ∧
      IsResolved env p name (settingsFor env p name) := by
  have hvalid : Namespace.isValid (chosenNamespace env p name) = true :=
    isValid_chosenNamespace_iff.mpr hnone
  refine ⟨by rw [resolve_of_named hname hblank, if_pos hvalid], ?_, rfl, ?_, ?_⟩
  · rw [validate_settingsFor hblank, if_pos hvalid]
  · intro given hgiven hne
    exact chosenNamespace_of_asked hgiven hne
  · exact chosenNamespace_of_not_asked

/-- What is not asked for is not refused; an empty namespace counts as none. -/
theorem not_isRefused_of_not_asked (h : ∀ given, askedNamespace env p = some given → given = "")
    (given : String) : ¬ IsRefused env p given := by
  rintro ⟨hgiven, hne, -⟩
  exact hne (h given hgiven)

/-- A blank namespace in the environment asks for none, and hides the property.  For this source
there is no way to the next one. -/
theorem eq_empty_of_blank_override {override : String} (h : env.nameSpace = some override)
    (hblank : Text.isBlankText override.toList = true) :
    ∀ given, askedNamespace env p = some given → given = "" := by
  intro given hgiven
  rw [askedNamespace, h, Option.some_inj] at hgiven
  rw [← hgiven, Text.strip_eq_empty_iff, hblank]

variable (env p explicit) in
/-- **Resolving fails exactly for a missing name and for a namespace that is asked for and is none.**
Otherwise it gives settings that are accepted, with the name and the namespace of their sources; the
namespace of an assembly never fails, and a blank one in the environment means that one, whatever the
properties say. -/
theorem resolve_fails_exactly_when_unusable :
    (resolve env p explicit = .error .missingAssemblyName ↔
        ∀ name, givenName p explicit = some name → Text.isBlankText name.toList = true) ∧
      ∀ name, givenName p explicit = some name → Text.isBlankText name.toList = false →
        (∀ given, resolve env p explicit = .error (.invalidNamespace given) ↔
            IsRefused env p given) ∧
          ((∀ given, ¬ IsRefused env p given) →
            ∃ settings, resolve env p explicit = .ok settings ∧ IsResolved env p name settings) ∧
          ((∀ given, askedNamespace env p = some given → given = "") →
            ∃ settings, resolve env p explicit = .ok settings ∧
              settings.nameSpace = Namespace.ofAssembly name) ∧
          ∀ override, env.nameSpace = some override → Text.isBlankText override.toList = true →
            ∃ settings, resolve env p explicit = .ok settings ∧
              settings.nameSpace = Namespace.ofAssembly name := by
  refine ⟨⟨fun hmissing name hname => ?_, resolve_of_unnamed⟩, fun name hname hblank => ?_⟩
  · rw [← Bool.not_eq_false]
    intro hblank
    rw [resolve_of_named hname hblank] at hmissing
    split at hmissing <;> cases hmissing
  · -- Both the absent and the blank namespace lead to the derived one.
    have hderived (hnone : ∀ given, askedNamespace env p = some given → given = "") :
        ∃ settings, resolve env p explicit = .ok settings ∧
          settings.nameSpace = Namespace.ofAssembly name := by
      obtain ⟨hok, hresolved⟩ :=
        resolve_of_not_refused hname hblank (not_isRefused_of_not_asked hnone)
      exact ⟨_, hok, hresolved.derived hnone⟩
    exact ⟨fun given => resolve_eq_invalidNamespace_iff hname hblank,
      fun hnone => ⟨_, resolve_of_not_refused hname hblank hnone⟩, hderived,
      fun override hoverride hempty => hderived (eq_empty_of_blank_override hoverride hempty)⟩

/-- A blank namespace in the environment is not the one of the property. -/
example : resolve { nameSpace := some " " } (Properties.empty.insert namespaceKey "Not.Used")
    (some " My App ") = .ok ⟨false, false, "My App", "My_App"⟩ :=
  rfl

end RouteIndex.Settings
