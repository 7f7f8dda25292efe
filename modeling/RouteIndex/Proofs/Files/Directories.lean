/-
  Directories that have been made.

  1. **Made** — a path has been made if it leads to a directory (`IsMade`); the empty path needs none.
     Making directories either fails or leaves the path made (`isMade_of_createDirectories`), by the way
     in which the last directory came about: it is new, or it was looked at.
  2. **Again** — what has been made stays as long as no directory is taken away (`IsMade.mono`), and to
     make it once more succeeds and changes nothing (`createDirectories_of_isMade`).
  3. **Texts** — reading gives a text exactly if its bytes stand where the path leads
     (`readText_eq_ok_iff`).
-/

import RouteIndex.Proofs.Files.Store

namespace RouteIndex.Files.Store

variable {s s' : Store} {start : Place} {steps : List Step} {path : String}

/-! ## Steps to a directory -/

/-- Steps lead to a directory if they lead to a place, and a directory stands there. -/
theorem isDirectory_iff : s.isDirectory start steps = true ↔
    ∃ place, s.follow start steps = .ok place ∧ s.entry? place = some .directory := by
  rw [isDirectory]
  constructor
  · intro h
    split at h
    · rename_i place hplace
      exact ⟨place, hplace, of_decide_eq_true h⟩
    · cases h
  · rintro ⟨place, hplace, hdirectory⟩
    rw [hplace]
    exact decide_eq_true hdirectory

/-- As long as no directory is taken away, what was one still is. -/
theorem isDirectory_mono (h : ∀ place, s.entry? place = some .directory →
    s'.entry? place = some .directory) (hsteps : s.isDirectory start steps = true) :
    s'.isDirectory start steps = true := by
  obtain ⟨place, hplace, hdirectory⟩ := isDirectory_iff.mp hsteps
  exact isDirectory_iff.mpr ⟨place, follow_mono h hplace, h place hdirectory⟩

/-- A directory can be stepped into, which is how the code asks whether there is one. -/
theorem follow_append_here {place : Place} (h : s.follow start steps = .ok place)
    (hdirectory : s.entry? place = some .directory) :
    s.follow start (steps ++ [.here]) = .ok place := by
  induction steps generalizing start with
  | nil =>
    obtain rfl := Except.ok.inj h
    exact follow_of_directory hdirectory .here []
  | cons step steps ih =>
    have hstart := directory_of_follow h
    rw [follow_of_directory hstart] at h
    rw [List.cons_append, follow_of_directory hstart]
    cases step with
    -- Only a name can be too long; the step is the same in front of either path.
    | name n =>
      simp only at h ⊢
      split at h
      · cases h
      · rename_i hshort
        rw [if_neg hshort]
        exact ih h
    | up => exact ih h
    | here => exact ih h

/-- A directory that is there is not made again. -/
theorem createDirectory_of_isDirectory (h : s.isDirectory start steps = true) :
    s.createDirectory start steps = .error .alreadyExists := by
  obtain ⟨place, hplace, hdirectory⟩ := isDirectory_iff.mp h
  rw [createDirectory, follow_append_here hplace hdirectory]

/-- Where a directory has been made there is one.  Making it again will find it and leave the store
as it is. -/
theorem isDirectory_of_createDirectory (h : s.createDirectory start steps = .ok s') :
    s'.isDirectory start steps = true := by
  have hadds := addsDirectories_createDirectory h
  rw [createDirectory] at h
  split at h
  · cases h
  · split at h
    · cases h
    · rename_i place hplace
      split at h
      · -- The place was free and is set now; the way to it is not lost, as directories are only
        -- added.
        rename_i hnone
        cases h
        have hnot : s.entry? place ≠ some .directory := by
          intro hdirectory
          rw [hnone] at hdirectory
          cases hdirectory
        refine isDirectory_iff.mpr ⟨place, follow_mono (fun p => hadds.kept p _) hplace, ?_⟩
        exact entry?_set_self .directory hnot
      · cases h

/-! ## Making all directories of a path -/

/-- Whatever was tried, the steps lead to a directory when it has succeeded: it is new, or it was
there when it was looked for. -/
theorem isDirectory_of_ensure {parents : StateM Store (Except Error Unit)}
    (h : ensure start parents steps s = (.ok (), s')) : s'.isDirectory start steps = true := by
  -- a failure counts as success if the directory turns out to be there
  have hsettle {between : Store} {e : Error} (h : (if between.isDirectory start steps
      then ((.ok (), between) : Except Error Unit × Store) else (.error e, between)) = (.ok (), s')) :
      s'.isDirectory start steps = true := by
    split at h
    · cases h
      assumption
    · cases h
  rw [ensure] at h
  split at h
  · rename_i hmade
    cases h
    exact isDirectory_of_createDirectory hmade
  · split at h
    · cases h
    · split at h
      · rename_i hmade
        cases h
        exact isDirectory_of_createDirectory hmade
      · exact hsettle h
  · exact hsettle h

/-- A directory that is there is ensured without a change, and its parents are not looked at. -/
theorem ensure_of_isDirectory (parents : StateM Store (Except Error Unit))
    (h : s.isDirectory start steps = true) : ensure start parents steps s = (.ok (), s) := by
  rw [ensure, createDirectory_of_isDirectory h]
  exact if_pos h

/-- A path that leads to a directory; the empty path needs none. -/
inductive IsMade (s : Store) (path : String) : Prop where
  | empty (h : path.isEmpty = true)
  | directory (hpath : pathError? path = none)
      (h : s.isDirectory (startOf path) (stepsOf (withoutEndSlashes path)) = true)

/-- A path that has been made stays so while other calls add directories and write files. -/
theorem IsMade.mono (hmade : s.IsMade path)
    (h : ∀ place, s.entry? place = some .directory → s'.entry? place = some .directory) :
    s'.IsMade path := by
  cases hmade with
  | empty hempty => exact .empty hempty
  | directory hpath hdirectory => exact .directory hpath (isDirectory_mono h hdirectory)

/-- **Making directories leaves the path made.** Slashes at its end are left out, since they lead
nowhere else. -/
theorem isMade_of_createDirectories (h : createDirectories path s = (.ok (), s')) :
    s'.IsMade path := by
  rw [createDirectories] at h
  split at h
  · rename_i hempty
    exact .empty hempty
  · cases hpath : pathError? path with
    | some e =>
      rw [hpath] at h
      cases h
    | none =>
      rw [hpath] at h
      exact .directory hpath (isDirectory_of_ensure h)

/-- **Making them again changes nothing**, and succeeds.  So a command can be run twice. -/
theorem createDirectories_of_isMade (h : s.IsMade path) : createDirectories path s = (.ok (), s) := by
  rw [createDirectories]
  cases h with
  | empty hempty => rw [if_pos hempty]
  | directory hpath hdirectory =>
    by_cases hempty : path.isEmpty = true
    · rw [if_pos hempty]
    · rw [if_neg hempty, hpath]
      exact ensure_of_isDirectory _ hdirectory

/-! ## Texts -/

/-- Bytes are read as a text exactly if they are its bytes: no two texts have the same ones. -/
theorem fromUTF8?_eq_some_iff {bytes : List UInt8} {text : String} :
    String.fromUTF8? ⟨bytes.toArray⟩ = some text ↔ bytes = text.toUTF8.data.toList := by
  constructor
  · intro h
    rw [String.fromUTF8?] at h
    split at h
    · rename_i hvalid
      obtain rfl := Option.some.inj h
      rfl
    · cases h
  · rintro rfl
    exact fromUTF8?_toUTF8 text

/-- Reading gives a text exactly if its bytes stand where the path leads. -/
theorem readText_eq_ok_iff {text : String} : (readText path s).1 = .ok text ↔
    ∃ place, s.placeOf path = .ok place ∧
      s.entry? place = some (.file text.toUTF8.data.toList) := by
  rw [readText]
  constructor
  · intro h
    split at h
    · cases h
    · rename_i place hplace
      refine ⟨place, hplace, ?_⟩
      split at h
      · cases h
      · cases h
      · -- The only text that is read off a file is the one its bytes decode to.
        rename_i bytes hfile
        split at h
        · rename_i hread
          cases h
          rw [hfile, fromUTF8?_eq_some_iff.mp hread]
        · cases h
  · rintro ⟨place, hplace, hfile⟩
    simp only [hplace, hfile, fromUTF8?_toUTF8]

end RouteIndex.Files.Store
