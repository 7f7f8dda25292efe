/-
  Loading properties.

  1. **Outcomes** — whatever has been told before, loading comes to the same (`LoadsTo`).  If the file
     can be read, it fails exactly for a pair that is none, at any place, and otherwise it sets all
     pairs over the file (`loadsTo_error_iff`, `loadsTo_ok_iff`).
  2. **Switches** — a switch is decided by its variable, or else by the layers (`Decides`).
  3. **`loadProperties_last_write_wins`** — the layers are what is loaded, and so they decide the
     settings; the order of pairs for different names does not matter, nor do pairs for names that no
     setting has.
-/

import RouteIndex.Proofs.Command.Inputs
import RouteIndex.Proofs.Files.Store
import RouteIndex.Proofs.Layers
import RouteIndex.Proofs.Settings

namespace RouteIndex.Command

open Files (Store)
open Properties (IsPair IsMalformed Layered)

variable {σ : Type} (access : Files.Access (StateM σ)) (s : σ)

/-! ## Outcomes -/

/-- What loading properties comes to, whatever has been told before. -/
def LoadsTo (file : Option String) (pairs : List String) (result : Except Failure Properties) : Prop :=
  ∀ t, Runs (loadProperties access file pairs) t s result t s

variable {access s} {file : Option String} {pairs : List String} {base p : Properties}
  {result result' : Except Failure Properties}

/-- Loading comes to one thing only, since what has been told before does not change it. -/
theorem LoadsTo.unique (h : LoadsTo access s file pairs result)
    (h' : LoadsTo access s file pairs result') : result = result' :=
  congrArg (·.1.1) ((h {}).symm.trans (h' {}))

/-- The properties of a file have their names in order, each of them once.  Pairs keep it that way,
so the map that is loaded is told by its look-ups. -/
theorem isAscending_of_fileInput (h : fileInput access s file = .ok base) : base.IsAscending := by
  cases file with
  | none =>
    cases h
    exact Properties.isAscending_empty
  | some path =>
    rw [fileInput] at h
    split at h
    · cases h
    · split at h
      · next hread =>
        cases h
        obtain ⟨entries, -, rfl⟩ := Option.map_eq_some_iff.mp hread
        exact Properties.isAscending_empty.insertAll
      · cases h

/-- No pair has a fault exactly if each of them is a pair. -/
theorem filterMap_pairFault?_eq_nil_iff :
    pairs.filterMap pairFault? = [] ↔ ∀ pair ∈ pairs, ¬ IsMalformed pair := by
  rw [List.filterMap_eq_nil_iff]
  refine forall₂_congr fun pair _ => ?_
  rw [← Properties.pair?_eq_none_iff, pairFault?]
  cases Properties.pair? pair <;> simp

variable (hread : ∀ path s, ((access.readText path).run s).2 = s)
  (hfile : fileInput access s file = .ok base)
include hread hfile

/-- Loading in one formula: the first fault among the pairs, or the pairs set over the file. -/
theorem loadsTo_settle (pairs : List String) : LoadsTo access s file pairs
    (settle (pairs.filterMap pairFault?) (base.insertAll (pairs.filterMap Properties.pair?))) := by
  have hreads := loadProperties_reads hread (s := s) ⟨{}, {}, [], none, file, pairs, none⟩
  rw [propertyFaults, propertiesOf, hfile] at hreads
  rw [← Properties.merge_insertAll (isAscending_of_fileInput hfile)]
  exact hreads

/-- **Loading succeeds exactly if every text is a pair**, and then it sets all pairs over the file,
from the first to the last. -/
theorem loadsTo_ok_iff : LoadsTo access s file pairs (.ok p) ↔
    (∀ pair ∈ pairs, ¬ IsMalformed pair) ∧ p = base.insertAll (pairs.filterMap Properties.pair?) := by
  have hloads := loadsTo_settle hread hfile pairs
  rw [← filterMap_pairFault?_eq_nil_iff]
  constructor
  · intro h
    have hresult := hloads.unique h
    -- Loading has one result, so a first fault would have been that result.
    cases hfaults : pairs.filterMap pairFault? with
    | nil =>
      rw [hfaults] at hresult
      exact ⟨rfl, (Except.ok.inj hresult).symm⟩
    | cons fault rest =>
      rw [hfaults] at hresult
      cases hresult
  · rintro ⟨hnone, rfl⟩
    rw [hnone] at hloads
    exact hloads

/-- It fails exactly if some text is none, wherever it stands.  Loading always has a result, so this
and the iff for success leave no third outcome. -/
theorem loadsTo_error_iff : (∃ fault, LoadsTo access s file pairs (.error fault)) ↔
    ∃ pair ∈ pairs, IsMalformed pair := by
  have hloads := loadsTo_settle hread hfile pairs
  constructor
  · rintro ⟨fault, h⟩
    refine Classical.byContradiction fun hnone => ?_
    have hwell : ∀ pair ∈ pairs, ¬ IsMalformed pair := fun pair hpair hbad => hnone ⟨pair, hpair, hbad⟩
    cases h.unique ((loadsTo_ok_iff hread hfile).mpr ⟨hwell, rfl⟩)
  · rintro ⟨pair, hpair, hbad⟩
    cases hfaults : pairs.filterMap pairFault? with
    | nil => exact absurd hbad (filterMap_pairFault?_eq_nil_iff.mp hfaults pair hpair)
    | cons fault rest =>
      rw [hfaults] at hloads
      exact ⟨fault, hloads⟩

/-- Two pairs for different names can change places, for the last value of each name stays the last
one. -/
theorem LoadsTo.exchange {front back : List String} {a b key value key' value' : String}
    (h : LoadsTo access s file (front ++ a :: b :: back) (.ok p)) (ha : IsPair a key value)
    (hb : IsPair b key' value') (hne : key ≠ key') :
    LoadsTo access s file (front ++ b :: a :: back) (.ok p) := by
  rw [loadsTo_ok_iff hread hfile] at h ⊢
  refine ⟨fun pair hpair => h.1 pair ?_, h.2.trans ?_⟩
  · simpa [or_left_comm] using hpair
  · exact (Properties.insertAll_exchange (isAscending_of_fileInput hfile) ha hb hne front back).symm

/-- Pairs for names that no setting has can be added anywhere.  The properties grow by them, but the
settings are resolved from the same values. -/
theorem LoadsTo.exists_wider {front more back : List String}
    (h : LoadsTo access s file (front ++ back) (.ok p))
    (hmore : ∀ pair ∈ more, ∃ key value, IsPair pair key value ∧ key ∉ Settings.keys) :
    ∃ wider, LoadsTo access s file (front ++ more ++ back) (.ok wider) ∧
      ∀ env explicit, Settings.resolve env wider explicit = Settings.resolve env p explicit := by
  obtain ⟨hwell, rfl⟩ := (loadsTo_ok_iff hread hfile).mp h
  refine ⟨_, (loadsTo_ok_iff hread hfile).mpr ⟨fun pair hpair => ?_, rfl⟩, ?_⟩
  · -- A pair of the wider list is one of the old ones, or one that was added and is well formed.
    rw [List.mem_append, List.mem_append, or_right_comm, ← List.mem_append] at hpair
    cases hpair with
    | inl hpair => exact hwell pair hpair
    | inr hpair =>
      obtain ⟨key, value, hpair, -⟩ := hmore pair hpair
      exact hpair.not_isMalformed
  · -- Resolving looks only at its own keys, and no added pair sets one of them.
    refine Settings.resolve_congr fun key hkey => ?_
    refine Properties.get?_insertAll_of_nonePairs base front back fun pair hpair value hs => ?_
    obtain ⟨other, value', hother, hnot⟩ := hmore pair hpair
    exact hnot ((hother.unique hs).1 ▸ hkey)

omit hread hfile

/-! ## Switches -/

/-- The value that decides a switch: the one of its variable, or else what its property has. -/
inductive Decides (override : Option String) (base : Properties) (pairs : List String) (key : String) :
    Option String → Prop where
  | override {value : String} (hset : override = some value) :
      Decides override base pairs key (some value)
  | layers {found : Option String} (hunset : override = none)
      (hfound : Layered base pairs key found) : Decides override base pairs key found

/-- A switch is on if the value that decides it is `true` in upper or lower case, blanks at its ends
aside.  No other value counts as true, and none does not either. -/
theorem switch_eq_true_iff {override : Option String} {key : String}
    (h : ∀ found, p.get? key = found ↔ Layered base pairs key found) :
    Settings.switch override p key = true ↔ ∃ value, Decides override base pairs key (some value) ∧
      (Text.trim value.toList).map Char.toLower = "true".toList := by
  have hyes (value : String) : Properties.meansYes value = true ↔
      (Text.trim value.toList).map Char.toLower = "true".toList := decide_eq_true_iff
  -- An override hides the layers altogether, also when it does not mean yes.
  cases override with
  | some value =>
    rw [Settings.switch, hyes]
    constructor
    · exact fun htrue => ⟨value, .override rfl, htrue⟩
    · rintro ⟨other, hdecides, htrue⟩
      cases hdecides with
      | override hset => exact Option.some.inj hset ▸ htrue
      | layers hunset _ => cases hunset
  | none =>
    rw [Settings.switch, Properties.isYes]
    constructor
    · intro htrue
      cases hvalue : p.get? key with
      | none =>
        rw [hvalue] at htrue
        cases htrue
      | some value =>
        rw [hvalue] at htrue
        exact ⟨value, .layers rfl ((h _).mp hvalue), (hyes value).mp htrue⟩
    · rintro ⟨value, hdecides, htrue⟩
      cases hdecides with
      | override hset => cases hset
      | layers _ hfound =>
        rw [(h _).mpr hfound]
        exact (hyes value).mpr htrue

/-! ## Loading -/

/-- **The last value wins, and loading gives everything or nothing.**  Where reading changes no file, and
the file of properties can be read or there is none, loading fails exactly if some text is no pair,
wherever it stands.  Otherwise the properties are what the layers have, name by name, and nothing else.
Therefore each switch of the settings is decided by its variable, by the last pair, or by the file, in
this order, and is off if there is no value; two pairs for different names can change places; and pairs
for names that no setting has can be added anywhere. -/
theorem loadProperties_last_write_wins (hread : ∀ path s, ((access.readText path).run s).2 = s)
    (hfile : fileInput access s file = .ok base) (pairs : List String) :
    ((∃ fault, LoadsTo access s file pairs (.error fault)) ↔ ∃ pair ∈ pairs, IsMalformed pair) ∧
      ((∃ p, LoadsTo access s file pairs (.ok p)) ↔ ∀ pair ∈ pairs, ¬ IsMalformed pair) ∧
      ∀ p, LoadsTo access s file pairs (.ok p) →
        (∀ key found, p.get? key = found ↔ Layered base pairs key found) ∧
          (∀ key value, (key, value) ∈ p.entries ↔ Layered base pairs key (some value)) ∧
          (∀ env explicit settings, Settings.resolve env p explicit = .ok settings →
            (settings.enabled = true ↔ ∃ value,
              Decides env.enableGeneration base pairs Settings.enableKey (some value) ∧
                (Text.trim value.toList).map Char.toLower = "true".toList) ∧
              (settings.autoRegister = true ↔ ∃ value,
                Decides env.autoRegister base pairs Settings.autoRegisterKey (some value) ∧
                  (Text.trim value.toList).map Char.toLower = "true".toList)) ∧
          (∀ front a b back key value key' value', pairs = front ++ a :: b :: back →
            IsPair a key value → IsPair b key' value' → key ≠ key' →
            LoadsTo access s file (front ++ b :: a :: back) (.ok p)) ∧
          ∀ front more back, pairs = front ++ back →
            (∀ pair ∈ more, ∃ key value, IsPair pair key value ∧ key ∉ Settings.keys) →
            ∃ wider, LoadsTo access s file (front ++ more ++ back) (.ok wider) ∧
              ∀ env explicit, Settings.resolve env wider explicit = Settings.resolve env p explicit := by
  refine ⟨loadsTo_error_iff hread hfile, ⟨?_, ?_⟩, fun p hloads => ?_⟩
  · rintro ⟨p, hloads⟩
    exact ((loadsTo_ok_iff hread hfile).mp hloads).1
  · exact fun hwell => ⟨_, (loadsTo_ok_iff hread hfile).mpr ⟨hwell, rfl⟩⟩
  · obtain ⟨-, hp⟩ := (loadsTo_ok_iff hread hfile).mp hloads
    -- Only a map that ascends is told by its look-ups, which is what the entries need.
    have hascending : p.IsAscending := hp ▸ (isAscending_of_fileInput hfile).insertAll
    have hget (key : String) (found : Option String) :
        p.get? key = found ↔ Layered base pairs key found := by
      rw [hp, Properties.layered_iff]
    refine ⟨hget, ?_, ?_, ?_, ?_⟩
    · intro key value
      rw [hascending.mem_entries_iff, hget]
    · intro env explicit settings hsettings
      obtain ⟨-, henabled, hregister⟩ := Settings.of_resolve hsettings
      rw [henabled, hregister]
      exact ⟨switch_eq_true_iff (hget _), switch_eq_true_iff (hget _)⟩
    · rintro front a b back key value key' value' rfl ha hb hne
      exact hloads.exchange hread hfile ha hb hne
    · rintro front more back rfl hmore
      exact hloads.exists_wider hread hfile hmore

/-- A text of properties, in which a table gives the name its first part. -/
def propertiesText : String :=
  "[build_property]\nFunctionsEnableMetadataSourceGen=true\n"

/-- The properties of that text. -/
def textProperties : Properties :=
  Properties.empty.insert Settings.enableKey "true"

/-- A store with that text in a file. -/
def storeWithProperties : Store :=
  (Store.writeText "app.toml" propertiesText .fresh).2

/-- The file is read as the properties of its text. -/
theorem fileInput_storeWithProperties :
    fileInput Store.access storeWithProperties (some "app.toml") = .ok textProperties := by
  have htext : textAt Store.access storeWithProperties "app.toml" = .ok propertiesText :=
    (Store.access_lawful.writeText_replaces "app.toml" propertiesText .fresh _ rfl).2
  have hread : PropertiesFile.read? propertiesText = some textProperties := by decide +kernel
  simp only [fileInput, htext, hread]

/-- A name is given twice, once with blanks around it, over a file with a switch. -/
theorem loadProperties_last_write_wins_twice :
    (∀ path s, ((Store.access.readText path).run s).2 = s) ∧
      fileInput Store.access storeWithProperties (some "app.toml") = .ok textProperties ∧
      ∃ p, LoadsTo Store.access storeWithProperties (some "app.toml")
          ["build_property.AssemblyName=First", " build_property.AssemblyName = Last "] (.ok p) ∧
        p.get? Settings.assemblyKey = some "Last" ∧ p.get? Settings.enableKey = some "true" := by
  have hread := Store.access_lawful.readText_state
  obtain ⟨-, hloads, hlayers⟩ := loadProperties_last_write_wins hread fileInput_storeWithProperties
    ["build_property.AssemblyName=First", " build_property.AssemblyName = Last "]
  have hfirst : IsPair "build_property.AssemblyName=First" Settings.assemblyKey "First" :=
    Properties.pair?_eq_some_iff.mp rfl
  have hlast : IsPair " build_property.AssemblyName = Last " Settings.assemblyKey "Last" :=
    Properties.pair?_eq_some_iff.mp rfl
  obtain ⟨p, hp⟩ := hloads.mpr (List.forall_mem_cons.mpr
    ⟨hfirst.not_isMalformed, List.forall_mem_singleton.mpr hlast.not_isMalformed⟩)
  obtain ⟨hget, -⟩ := hlayers p hp
  refine ⟨hread, fileInput_storeWithProperties, p, hp, ?_, ?_⟩
  · exact (hget _ _).mpr (.pair [_] [] rfl hlast nofun)
  · have hother : Properties.NonePairs
        ["build_property.AssemblyName=First", " build_property.AssemblyName = Last "]
        Settings.enableKey := by
      refine List.forall_mem_cons.mpr ⟨fun value h => ?_, List.forall_mem_singleton.mpr fun value h => ?_⟩
      · exact absurd (h.unique hfirst).1 (by decide)
      · exact absurd (h.unique hlast).1 (by decide)
    exact (hget _ _).mpr (.of_get? hother rfl)

end RouteIndex.Command
