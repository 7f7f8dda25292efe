/-
  Writing units into one directory, time after time.

  1. **Readiness** — a store is ready for the units of a directory if the directory is there and the
     path of their file leads to a place without a directory (`IsReady`).  The first write makes the
     store ready, and no later one changes that.
  2. **Step** — in a ready store the file is left alone if it is text with the digest of the unit, and
     gets the source of the unit otherwise (`Writes`, `writeUnit_steps`).  Either way it has the digest
     behind the step, and no other place has changed.
  3. **Run** — by induction over the sources, the file always has the digest of the unit before, so a
     unit is written exactly if its digest is another one (`writeAll_runs`).
  4. **`writeUnit_rewrites_only_when_needed`** — this for every store in which the calls succeed,
     whatever stands under the path at first.
-/

import RouteIndex.Proofs.Command.Delivery
import RouteIndex.Proofs.Files.Directories

namespace RouteIndex.Command

open Files (AddsDirectories Place Store join)

/-! ## Files and digests -/

/-- The path of the file for the units in a directory. -/
def unitPath (directory : String) : String :=
  join directory GeneratedUnit.unitName

/-- The file at a place is the UTF-8 form of a text with the digest. -/
def HoldsDigest (s : Store) (place : Place) (digest : String) : Prop :=
  ∃ text : String, s.entry? place = some (.file text.toUTF8.data.toList) ∧
    GeneratedUnit.digestOf text = digest

/-- The same file stands at a place in both stores, or none in either. -/
def SameFile (s s' : Store) (place : Place) : Prop :=
  ∀ bytes, s.entry? place = some (.file bytes) ↔ s'.entry? place = some (.file bytes)

/-- The calls for the file of a unit succeed: the directory can be made, and the file, unless it has the
digest already, can then be written. -/
structure CallsSucceed (s : Store) (directory source : String) : Prop where
  makes : ((Store.access.createDirectories directory).run s).1 = .ok ()
  writes : HasDigest Store.access (.ofSource source) (unitPath directory)
      ((Store.access.createDirectories directory).run s).2 ∨
    ((Store.access.writeText (unitPath directory) source).run
      ((Store.access.createDirectories directory).run s).2).1 = .ok ()

variable {s s' between : Store} {directory source digest : String} {place other : Place}

/-- A file has one digest only, since its bytes are those of one text only. -/
theorem HoldsDigest.unique {digest' : String} (h : HoldsDigest s place digest)
    (h' : HoldsDigest s place digest') : digest = digest' := by
  obtain ⟨text, hfile, rfl⟩ := h
  obtain ⟨text', hfile', rfl⟩ := h'
  rw [hfile, Option.some.injEq, Files.Entry.file.injEq] at hfile'
  have htext : some text = some text' := by
    rw [← Store.fromUTF8?_toUTF8 text, ← Store.fromUTF8?_toUTF8 text', hfile']
  rw [Option.some.inj htext]

/-- New directories are no files, so making the directory changes no file. -/
theorem sameFile_of_addsDirectories (h : AddsDirectories Store.entry? s s') (place : Place) :
    SameFile s s' place := by
  intro bytes
  constructor
  · exact h.kept place _
  · intro hafter
    cases hbefore : s.entry? place with
    | none => cases h.added place _ hbefore hafter
    | some e => rw [← hafter, h.kept place e hbefore]

/-- Whether a file has a digest depends on this file alone. -/
theorem holdsDigest_congr (h : SameFile s s' place) :
    HoldsDigest s place digest ↔ HoldsDigest s' place digest :=
  exists_congr fun _ => and_congr_left fun _ => h _

/-! ## Readiness -/

/-- The directory is there, and the file of its units can stand at the place. -/
structure IsReady (s : Store) (directory : String) (place : Place) : Prop where
  made : s.IsMade directory
  leads : s.placeOf (unitPath directory) = .ok place
  free : s.entry? place ≠ some .directory

/-- The file that the command looks at is the one at the place. -/
theorem IsReady.hasDigest_iff (h : IsReady s directory place) (unit : GeneratedUnit) :
    HasDigest Store.access unit (unitPath directory) s ↔ HoldsDigest s place unit.digest := by
  have htext (text : String) : textAt Store.access s (unitPath directory) = .ok text ↔
      s.entry? place = some (.file text.toUTF8.data.toList) := by
    refine Store.readText_eq_ok_iff.trans ⟨?_, fun hfile => ⟨place, h.leads, hfile⟩⟩
    rintro ⟨p, hp, hfile⟩
    rw [h.leads, Except.ok.injEq] at hp
    rwa [hp]
  exact exists_congr fun text => and_congr_left fun _ => htext text

/-- A ready store stays so, whatever is written into the file: every directory is still where it
was, and so the path leads to the same place. -/
theorem IsReady.set (h : IsReady s directory place) (bytes : List UInt8) :
    IsReady (s.set place (.file bytes)) directory place where
  made := h.made.mono (Store.directory_of_set_file h.free bytes)
  leads := Store.placeOf_mono (Store.directory_of_set_file h.free bytes) h.leads
  free := by
    rw [Store.entry?_set_self _ h.free]
    exact nofun

/-- In a ready store, writing the file succeeds and sets the place. -/
theorem IsReady.writeText_eq (h : IsReady s directory place) (text : String) :
    Store.writeText (unitPath directory) text s =
      (.ok (), s.set place (.file text.toUTF8.data.toList)) := by
  rw [Store.writeText, Store.writeBytes, h.leads]
  simp only
  split
  · rename_i hdirectory
    exact absurd hdirectory h.free
  · rfl

/-- Calls that succeed make a store ready.  If the file need not be written, it is there, and then
no directory stands at its place either. -/
theorem CallsSucceed.isReady (h : CallsSucceed s directory source) :
    ∃ between place, Store.createDirectories directory s = (.ok (), between) ∧
      IsReady between directory place := by
  obtain ⟨between, hbetween⟩ : ∃ between, (Store.createDirectories directory s).2 = between := ⟨_, rfl⟩
  have hmade : Store.createDirectories directory s = (.ok (), between) := Prod.ext h.makes hbetween
  have hwrites := h.writes
  rw [show (Store.access.createDirectories directory).run s = _ from hmade] at hwrites
  rcases hwrites with ⟨text, htext, -⟩ | hwrote
  · -- the file had the digest already, and what can be read is no directory
    obtain ⟨place, hplace, hfile⟩ := Store.readText_eq_ok_iff.mp htext
    refine ⟨between, place, hmade, Store.isMade_of_createDirectories hmade, hplace, ?_⟩
    rw [hfile]
    exact nofun
  · obtain ⟨place, hplace, hfree, -⟩ := Store.writeText_eq_ok (Prod.ext hwrote rfl)
    exact ⟨between, place, hmade, Store.isMade_of_createDirectories hmade, hplace, hfree⟩

/-! ## One unit -/

/-- What writing the unit of a source does to the file at a place. -/
inductive Writes (s : Store) (place : Place) (source : String) : Bool → Store → Prop
  | unchanged (held : HoldsDigest s place (GeneratedUnit.digestOf source)) :
      Writes s place source false s
  | written (stale : ¬ HoldsDigest s place (GeneratedUnit.digestOf source)) :
      Writes s place source true (s.set place (.file source.toUTF8.data.toList))

variable {written : Bool}

/-- Nothing is written exactly if the file has the digest already. -/
theorem Writes.eq_false_iff (h : Writes s place source written s') :
    written = false ↔ HoldsDigest s place (GeneratedUnit.digestOf source) := by
  cases h with
  | unchanged held => exact iff_of_true rfl held
  | written stale => exact iff_of_false nofun stale

/-- No other place is touched by the step. -/
theorem Writes.entry?_of_ne (h : Writes s place source written s') (hother : other ≠ place) :
    s'.entry? other = s.entry? other := by
  cases h with
  | unchanged held => rfl
  | written stale => exact Store.entry?_set_of_ne s _ hother

/-- **Either way the file has the digest of the unit**: it had it before, or it has the source now. -/
theorem Writes.holdsDigest (h : Writes s place source written s')
    (hfree : s.entry? place ≠ some .directory) :
    HoldsDigest s' place (GeneratedUnit.digestOf source) := by
  cases h with
  | unchanged held => exact held
  | written stale => exact ⟨source, Store.entry?_set_self _ hfree, rfl⟩

/-- The step leaves the store ready for the next one, which is the invariant of the run below. -/
theorem Writes.isReady (h : Writes s place source written s') (hready : IsReady s directory place) :
    IsReady s' directory place := by
  cases h with
  | unchanged held => exact hready
  | written stale => exact hready.set _

/-- **The command does it**, once the directory has been made; the flag that it gives back is
whether something was written. -/
theorem writeUnit_steps (hmade : Store.createDirectories directory s = (.ok (), between))
    (hready : IsReady between directory place) (source : String) :
    ∃ written s', Writes between place source written s' ∧
      ∀ t, ∃ t', Runs (writeUnit Store.access directory (.ofSource source)) t s (.ok written) t' s' := by
  have hdigest := hready.hasDigest_iff (.ofSource source)
  by_cases hheld : HoldsDigest between place (GeneratedUnit.digestOf source)
  · exact ⟨false, between, .unchanged hheld, fun t =>
      ⟨_, writeUnit_of_current Store.access_lawful hmade (hdigest.mpr hheld)⟩⟩
  · refine ⟨true, _, .written hheld, fun t => ?_⟩
    have hwrote : Runs (attempt (.outputFile (unitPath directory))
        (Store.access.writeText (unitPath directory) source)) t between (.ok ()) t
        (between.set place (.file source.toUTF8.data.toList)) :=
      runs_attempt _ (hready.writeText_eq source)
    exact ⟨_, writeUnit_of_stale Store.access_lawful hmade
      (fun hcurrent => hheld (hdigest.mp hcurrent)) hwrote⟩

/-! ## Many units -/

/-- Writes the units of sources into a directory, one after the other; gives of each whether it was
written. -/
def writeAll (directory : String) (sources : List String) : Run (StateM Store) (List Bool) :=
  sources.mapM fun source => writeUnit Store.access directory (.ofSource source)

/-- For each source behind the first one, whether its digest differs from that of the one before. -/
def changes (first : String) (sources : List String) : List Bool :=
  List.zipWith (fun before source =>
    decide (GeneratedUnit.digestOf before ≠ GeneratedUnit.digestOf source)) (first :: sources) sources

/-- **The file keeps up with the units**: where it has the digest of one unit, every unit behind
that one is written if its digest is new, and the file has the digest of the last.  The induction is
over the sources, with the store left open. -/
theorem writeAll_runs (sources : List String) : ∀ {s : Store} {first : String},
    IsReady s directory place → HoldsDigest s place (GeneratedUnit.digestOf first) → ∀ t,
    ∃ t' s', Runs (writeAll directory sources) t s (.ok (changes first sources)) t' s' ∧
      HoldsDigest s' place (GeneratedUnit.digestOf (sources.getLastD first)) ∧
      ∀ other, other ≠ place → s'.entry? other = s.entry? other := by
  -- The store is left open: every delivery starts in what the one before it left, and that the last
  -- source is held there is what the induction carries.
  induction sources with
  | nil => exact fun _ hheld t => ⟨t, _, runs_pure [], hheld, fun _ _ => rfl⟩
  | cons source sources ih =>
    intro s first hready hheld t
    obtain ⟨written, s', hwrites, hruns⟩ :=
      writeUnit_steps (Store.createDirectories_of_isMade hready.made) hready source
    -- The file holds the digest of the last source, so a new one is written exactly when it
    -- differs.
    have hflag : written =
        decide (GeneratedUnit.digestOf first ≠ GeneratedUnit.digestOf source) := by
      have hsame : HoldsDigest s place (GeneratedUnit.digestOf source) ↔
          GeneratedUnit.digestOf first = GeneratedUnit.digestOf source :=
        ⟨hheld.unique, fun heq => heq ▸ hheld⟩
      rw [← hwrites.eq_false_iff] at hsame
      cases written <;> simp_all
    obtain ⟨t', hfirst⟩ := hruns t
    obtain ⟨t'', s'', hrest, hlast, hothers⟩ :=
      ih (hwrites.isReady hready) (hwrites.holdsDigest hready.free) t'
    refine ⟨t'', s'', ?_, ?_, fun other hother => ?_⟩
    · rw [writeAll, List.mapM_cons]
      rw [hflag] at hfirst
      exact hfirst.bind (hrest.bind (runs_pure _))
    · rwa [List.getLastD_cons]
    · rw [hothers other hother, hwrites.entry?_of_ne hother]

/-- **Writing units converges, and writes only what is new.**  Where the calls for files succeed, a unit
is written into the file that its path leads to, once the directory has been made.  It is left alone,
and so is every other file, exactly if that file was text with the digest of the unit already; and
otherwise the file has the source of the unit, and no other file has changed.  Either way it has the
digest of the unit then, and the same unit is not written once more.  After any further units it has the
digest of the last of them; each one is written exactly if its digest is not the one of the unit before;
and still no other file has changed. -/
theorem writeUnit_rewrites_only_when_needed (hcalls : CallsSucceed s directory source) :
    ∃ between place, Store.createDirectories directory s = (.ok (), between) ∧
      between.placeOf (unitPath directory) = .ok place ∧
      (∀ p, s.placeOf (unitPath directory) = .ok p → p = place) ∧
      ∃ written s',
        (∀ t, ∃ t', Runs (writeUnit Store.access directory (.ofSource source)) t s
          (.ok written) t' s') ∧
        (written = false ↔ HoldsDigest s place (GeneratedUnit.digestOf source)) ∧
        (written = false → ∀ p, SameFile s s' p) ∧
        (written = true → s'.entry? place = some (.file source.toUTF8.data.toList) ∧
          ∀ p, p ≠ place → SameFile s s' p) ∧
        HoldsDigest s' place (GeneratedUnit.digestOf source) ∧
        (∀ t, ∃ t', Runs (writeUnit Store.access directory (.ofSource source)) t s'
          (.ok false) t' s') ∧
        ∀ sources t, ∃ t' s'', Runs (writeAll directory sources) t s'
            (.ok (changes source sources)) t' s'' ∧
          HoldsDigest s'' place (GeneratedUnit.digestOf (sources.getLastD source)) ∧
          ∀ p, p ≠ place → SameFile s s'' p := by
  obtain ⟨between, place, hmade, hready⟩ := hcalls.isReady
  have hadds : AddsDirectories Store.entry? s between := by
    have hadds := Store.addsDirectories_createDirectories directory s
    rwa [hmade] at hadds
  have hsame := sameFile_of_addsDirectories hadds
  obtain ⟨written, s', hwrites, hruns⟩ := writeUnit_steps hmade hready source
  have hready' := hwrites.isReady hready
  have hheld := hwrites.holdsDigest hready.free
  -- Making the directory touches no file, so it does not matter whether a file is compared with the
  -- store of the beginning or with the one in between.
  have hothers {s'' : Store} {p : Place} (h : s''.entry? p = between.entry? p) :
      SameFile s s'' p := fun bytes => by rw [h, hsame p bytes]
  refine ⟨between, place, hmade, hready.leads, fun p hp => ?_, written, s', hruns, ?_, ?_, ?_, hheld, ?_,
    fun sources t => ?_⟩
  · have hstill := Store.placeOf_mono (fun p => hadds.kept p _) hp
    rw [hready.leads] at hstill
    exact (Except.ok.inj hstill).symm
  · rw [hwrites.eq_false_iff, holdsDigest_congr (hsame place)]
  · rintro rfl p
    cases hwrites
    exact hsame p
  · rintro rfl
    refine ⟨?_, fun p hp => hothers (hwrites.entry?_of_ne hp)⟩
    cases hwrites
    exact Store.entry?_set_self _ hready.free
  · -- A second delivery meets its own digest, so only the unchanged branch is left.
    obtain ⟨again, s'', hagain, hruns'⟩ :=
      writeUnit_steps (Store.createDirectories_of_isMade hready'.made) hready' source
    cases hagain with
    | unchanged => exact hruns'
    | written stale => exact absurd hheld stale
  · obtain ⟨t', s'', hrun, hlast, hrest⟩ := writeAll_runs sources hready' hheld t
    refine ⟨t', s'', hrun, hlast, fun p hp => hothers ?_⟩
    rw [hrest p hp, hwrites.entry?_of_ne hp]

/-- A directory with a file for the units that is no text. -/
def storeWithBytes : Store :=
  ⟨[(["out", GeneratedUnit.unitName], .file [0xFF]), (["out"], .directory)]⟩

theorem writeUnit_rewrites_only_when_needed_over_bytes :
    CallsSucceed storeWithBytes "out" "class A {}\n" ∧
      ∃ s', (∀ t, ∃ t', Runs (writeUnit Store.access "out" (.ofSource "class A {}\n")) t
          storeWithBytes (.ok true) t' s') ∧
        s'.entry? ["out", GeneratedUnit.unitName] =
          some (.file "class A {}\n".toUTF8.data.toList) ∧
        ∀ t, ∃ t', Runs (writeUnit Store.access "out" (.ofSource "class A {}\n")) t s'
          (.ok false) t' s' := by
  have hcalls : CallsSucceed storeWithBytes "out" "class A {}\n" := ⟨rfl, .inr rfl⟩
  obtain ⟨between, place, hmade, hplace, -, written, s', hruns, hflag, -, hafter, -, hagain, -⟩ :=
    writeUnit_rewrites_only_when_needed hcalls
  obtain rfl : storeWithBytes = between := congrArg Prod.snd hmade
  obtain rfl : ["out", GeneratedUnit.unitName] = place := Except.ok.inj hplace
  have hstale : ¬ HoldsDigest storeWithBytes ["out", GeneratedUnit.unitName]
      (GeneratedUnit.digestOf "class A {}\n") := by
    rintro ⟨text, hfile, -⟩
    have hbytes : [0xFF] = text.toUTF8.data.toList := by
      injection hfile with hfile
      injection hfile
    have hread := Store.fromUTF8?_eq_some_iff.mpr hbytes
    have hnone : String.fromUTF8? ⟨[0xFF].toArray⟩ = none := by decide
    rw [hnone] at hread
    cases hread
  cases written with
  | false => exact absurd (hflag.mp rfl) hstale
  | true => exact ⟨hcalls, s', hruns, (hafter rfl).1, hagain⟩

end RouteIndex.Command
