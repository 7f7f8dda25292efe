/-
  What a command relies on when it works with files.

  The files of a machine are a state, in which something stands at each place (`look`).  Access to
  them is `Lawful` if reading leaves the state alone, making directories adds directories and takes
  nothing away, and writing gives one file a new text, which is read back under the same path.
  Nothing is said about which errors there are, nor about what a failed write leaves behind.
-/

import RouteIndex.Files.Store

namespace RouteIndex.Files

variable {σ π : Type} (look : σ → π → Option Entry)

/-- Everything stands where it stood, and what is new are directories. -/
structure AddsDirectories (s s' : σ) : Prop where
  kept : ∀ place e, look s place = some e → look s' place = some e
  added : ∀ place e, look s place = none → look s' place = some e → e = .directory

/-- A place has the text and had no directory, and all other places are as they were. -/
structure Replaces (place : π) (text : String) (s s' : σ) : Prop where
  before : look s place ≠ some .directory
  after : look s' place = some (.file text.toUTF8.data.toList)
  others : ∀ other, other ≠ place → look s' other = look s other

/-- What is documented about reading, writing and making directories. -/
structure Access.Lawful (access : Access (StateM σ)) : Prop where
  readText_state : ∀ path s, ((access.readText path).run s).2 = s
  createDirectories_adds : ∀ path s,
    AddsDirectories look s ((access.createDirectories path).run s).2
  writeText_replaces : ∀ path text s s', (access.writeText path text).run s = (.ok (), s') →
    (∃ place, Replaces look place text s s') ∧ ((access.readText path).run s').1 = .ok text

variable {look}

/-- A call that does nothing adds no directory. -/
theorem AddsDirectories.refl (s : σ) : AddsDirectories look s s where
  kept _ _ h := h
  added _ _ hnone hsome := nomatch hnone.symm.trans hsome

/-- Calls that only add directories can be made in a row: what the second one finds new was new
before the first one, or the first one has put a directory there. -/
theorem AddsDirectories.trans {s s' s'' : σ} (h : AddsDirectories look s s')
    (h' : AddsDirectories look s' s'') : AddsDirectories look s s'' where
  kept place e he := h'.kept place e (h.kept place e he)
  added place e hnone hsome := by
    cases hmiddle : look s' place with
    | none => exact h'.added place e hmiddle hsome
    | some d =>
      have hd := h.added place d hnone hmiddle
      have hkept := h'.kept place d hmiddle
      rw [hsome] at hkept
      rw [Option.some.inj hkept, hd]

end RouteIndex.Files
