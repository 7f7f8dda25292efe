/-
  Stores are lawful.

  1. **Places** — setting a place changes what stands there and nothing else (`entry?_set`); the bases
     are never set.
  2. **Directories** — a directory is made only at a place where nothing stood, so every attempt to
     make one adds directories, whether it succeeds or not; `ensureAll` is an induction over the steps
     (`addsDirectories_ensureAll`).
  3. **Files** — a file is written only where no directory stands.  Steps lead through directories, and
     these are still there, so they lead to the same place as before (`follow_mono`), and the text is
     read back.
-/

import RouteIndex.Proofs.Files.Lawful

namespace RouteIndex.Files.Store

/-! ## Places -/

/-- Taking the entries of one place out of a list leaves those of every other place to be found. -/
theorem lookup_filter_ne {entries : List (Place × Entry)} {place other : Place}
    (h : other ≠ place) :
    (entries.filter (·.1 ≠ place)).lookup other = entries.lookup other := by
  induction entries with
  | nil => rfl
  | cons e entries ih =>
    obtain ⟨key, e⟩ := e
    by_cases hkey : key = place
    · have hother : (other == key) = false := beq_eq_false_iff_ne.mpr (hkey ▸ h)
      rw [List.filter_cons_of_neg (by simpa using hkey), ih, List.lookup_cons, hother]
    · rw [List.filter_cons_of_pos (by simpa using hkey), List.lookup_cons, List.lookup_cons, ih]

/-- What stands at a place once one has been set.  The bases come first: they are directories
whatever has been set. -/
theorem entry?_set (s : Store) (place other : Place) (e : Entry) : entry? (s.set place e) other =
    if isBase other then some .directory else if other = place then some e else s.entry? other := by
  rw [ entry?, set]
  by_cases hbase : isBase other = true
  · rw [if_pos hbase, if_pos hbase]
  · rw [if_neg hbase, if_neg hbase, entry?, if_neg hbase, List.lookup_cons]
    by_cases hother : other = place
    · rw [if_pos hother, beq_iff_eq.mpr hother]
    · rw [if_neg hother, beq_eq_false_iff_ne.mpr hother]
      exact lookup_filter_ne hother

/-- Setting one place changes no other. -/
theorem entry?_set_of_ne (s : Store) {place other : Place} (e : Entry) (h : other ≠ place) :
    entry? (s.set place e) other = s.entry? other := by
  rw [entry?_set, if_neg h, entry?]
  split <;> rfl

/-- Where no directory stands there is no base, for bases are always directories. -/
theorem isBase_eq_false {s : Store} {place : Place} (h : s.entry? place ≠ some .directory) :
    isBase place = false := by
  rw [← Bool.not_eq_true]
  intro hbase
  exact h (if_pos hbase)

/-- What has been set at a place stands there, unless a base is meant. -/
theorem entry?_set_self {s : Store} {place : Place} (e : Entry)
    (h : s.entry? place ≠ some .directory) : entry? (s.set place e) place = some e := by
  rw [entry?_set, isBase_eq_false h, if_pos rfl]
  rfl

/-! ## Directories -/

/-- A directory where nothing stood is all that a single step of making directories adds. -/
theorem addsDirectories_set {s : Store} {place : Place} (h : s.entry? place = none) :
    AddsDirectories entry? s (s.set place .directory) where
  kept other e he := by
    have hother : other ≠ place := by
      rintro rfl
      exact nomatch h.symm.trans he
    rw [entry?_set_of_ne s .directory hother, he]
  -- The place itself is the one that is new, and what it holds is a directory.
  added other e hnone hsome := by
    by_cases hother : other = place
    · have hnot : s.entry? place ≠ some .directory := by
        rw [h]
        exact fun h => nomatch h
      rw [hother, entry?_set_self .directory hnot] at hsome
      exact (Option.some.inj hsome).symm
    · rw [entry?_set_of_ne s .directory hother, hnone] at hsome
      cases hsome

/-- One directory is made only where nothing stood: a place with something at it is refused in
front. -/
theorem addsDirectories_createDirectory {s s' : Store} {start : Place} {steps : List Step}
    (h : s.createDirectory start steps = .ok s') : AddsDirectories entry? s s' := by
  rw [createDirectory] at h
  split at h
  · cases h
  · split at h
    · cases h
    · split at h
      · rename_i hnone
        cases h
        exact addsDirectories_set hnone
      · cases h

/-- One step of making directories, if its parents only add directories.  Every branch either leaves
the store alone or goes through one of the calls in question. -/
theorem addsDirectories_ensure {start : Place} {parents : StateM Store (Except Error Unit)}
    (hparents : ∀ s, AddsDirectories entry? s (parents s).2) (steps : List Step) (s : Store) :
    AddsDirectories entry? s (ensure start parents steps s).2 := by
  have hsettle (s : Store) (e : Error) :
      (if s.isDirectory start steps then ((.ok (), s) : Except Error Unit × Store)
        else (.error e, s)).2 = s := by
    split <;> rfl
  rw [ensure]
  split
  · rename_i hmade
    exact addsDirectories_createDirectory hmade
  · have hup := hparents s
    split
    · -- what the parents have made stays, even if they fail
      rename_i hfailed
      rw [hfailed] at hup
      exact hup
    · rename_i hdone
      rw [hdone] at hup
      split
      · rename_i hmade
        exact hup.trans (addsDirectories_createDirectory hmade)
      · rw [hsettle]
        exact hup
  · rw [hsettle]
    exact AddsDirectories.refl s

/-- **All parents are made by the same step**, so the induction is over the steps that are left. -/
theorem addsDirectories_ensureAll (start : Place) (steps : List Step) (s : Store) :
    AddsDirectories entry? s (ensureAll start steps s).2 := by
  induction steps generalizing s with
  | nil => exact AddsDirectories.refl s
  | cons step before ih => exact addsDirectories_ensure ih _ s

/-- Making the directories of a path only adds directories, whether it succeeds or not.  What has
been made before an error stays, and it is a directory too. -/
theorem addsDirectories_createDirectories (path : String) (s : Store) :
    AddsDirectories entry? s (createDirectories path s).2 := by
  rw [createDirectories]
  by_cases hempty : path.isEmpty = true
  · rw [if_pos hempty]
    exact AddsDirectories.refl s
  · rw [if_neg hempty]
    cases pathError? path with
    | some e => exact AddsDirectories.refl s
    | none => exact addsDirectories_ensure (addsDirectories_ensureAll _ _) _ s

/-! ## Files -/

/-- A step leads out of a directory, so whoever gets on has started from one. -/
theorem directory_of_follow {s : Store} {start goal : Place} {step : Step} {steps : List Step}
    (h : s.follow start (step :: steps) = .ok goal) : s.entry? start = some .directory := by
  rw [follow.eq_def] at h
  simp only at h
  split at h
  · cases h
  · cases h
  · assumption

/-- From a directory, each kind of step leads where it says. -/
theorem follow_of_directory {s : Store} {start : Place} (h : s.entry? start = some .directory)
    (step : Step) (steps : List Step) : s.follow start (step :: steps) =
      match step with
      | .name n =>
        if nameLimit < n.utf8ByteSize then .error .nameTooLong else s.follow (start ++ [n]) steps
      | .up => s.follow (above start) steps
      | .here => s.follow start steps := by
  rw [follow.eq_def]
  cases step <;> simp only [h]

/-- Steps lead the same way where every directory is still there.  The induction is over the steps;
each of them leaves a directory that the other store has as well. -/
theorem follow_mono {s s' : Store}
    (h : ∀ place, s.entry? place = some .directory → s'.entry? place = some .directory)
    {start goal : Place} {steps : List Step} (hfollow : s.follow start steps = .ok goal) :
    s'.follow start steps = .ok goal := by
  induction steps generalizing start with
  | nil => exact hfollow
  | cons step steps ih =>
    -- Each step starts in a directory of the smaller store, which the larger one has too.
    have hdirectory := directory_of_follow hfollow
    rw [follow_of_directory hdirectory] at hfollow
    rw [follow_of_directory (h start hdirectory)]
    cases step with
    | name n =>
      simp only at hfollow ⊢
      split at hfollow
      · cases hfollow
      · rename_i hshort
        rw [if_neg hshort]
        exact ih hfollow
    | up => exact ih hfollow
    | here => exact ih hfollow

/-- The same for whole paths, whose errors do not depend on the store. -/
theorem placeOf_mono {s s' : Store}
    (h : ∀ place, s.entry? place = some .directory → s'.entry? place = some .directory)
    {path : String} {goal : Place} (hplace : s.placeOf path = .ok goal) :
    s'.placeOf path = .ok goal := by
  rw [placeOf] at hplace ⊢
  split at hplace
  · cases hplace
  · exact follow_mono h hplace

/-- A file takes no directory away, for it is not written where one stands. -/
theorem directory_of_set_file {s : Store} {place : Place} (h : s.entry? place ≠ some .directory)
    (bytes : List UInt8) (other : Place) (hother : s.entry? other = some .directory) :
    entry? (s.set place (.file bytes)) other = some .directory := by
  have hne : other ≠ place := by
    rintro rfl
    exact h hother
  rw [entry?_set_of_ne s _ hne, hother]

/-- A text that has been written is at the place of its path, and this is the only change.  Errors
leave the store as it was and are no case here. -/
theorem writeText_eq_ok {path text : String} {s s' : Store}
    (h : writeText path text s = (.ok (), s')) : ∃ place, s.placeOf path = .ok place ∧
      s.entry? place ≠ some .directory ∧ s' = s.set place (.file text.toUTF8.data.toList) := by
  rw [writeText, writeBytes] at h
  split at h
  · cases h
  · rename_i place hplace
    split at h
    · cases h
    · rename_i hnot
      cases h
      exact ⟨place, hplace, hnot, rfl⟩

/-- The bytes of a text are read as the text. -/
theorem fromUTF8?_toUTF8 (text : String) :
    String.fromUTF8? ⟨text.toUTF8.data.toList.toArray⟩ = some text :=
  dif_pos text.isValidUTF8

/-- **Access to a store is lawful.** Reading leaves it alone by definition, making directories was
looked at above, and a text that has been written is read back because its path still leads to the
same place. -/
theorem access_lawful : access.Lawful entry? where
  readText_state _ _ := rfl
  createDirectories_adds := addsDirectories_createDirectories
  writeText_replaces path text s s' h := by
    obtain ⟨place, hplace, hnot, rfl⟩ := writeText_eq_ok h
    have hafter := entry?_set_self (.file text.toUTF8.data.toList) hnot
    refine ⟨⟨place, hnot, hafter, fun other hother => entry?_set_of_ne s _ hother⟩, ?_⟩
    show (readText path _).1 = _
    rw [readText, placeOf_mono (directory_of_set_file hnot _) hplace]
    simp only [hafter, fromUTF8?_toUTF8]

end RouteIndex.Files.Store
