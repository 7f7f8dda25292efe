/-
  How a unit is given out.

  Without a directory, the source of the unit is the output.  With one, the directory is made, and the
  file of the unit in it is written, unless it has the digest of the unit already.  `Delivers` is this
  as a relation apart from the command: one constructor for each way in which it can go, with the calls
  that are made and what they change.  There is always such a way (`exists_delivers`), and the command
  goes it (`Delivers.runs`).
-/

import RouteIndex.Proofs.Command.Inputs
import RouteIndex.Proofs.Files.Lawful

namespace RouteIndex.Command

open Files (Access AddsDirectories Replaces Entry join)

variable {σ π : Type} (access : Access (StateM σ)) (look : σ → π → Option Entry)

/-! ## Ways of delivery -/

/-- Whether the file at a path has the digest of a unit. -/
def HasDigest (unit : GeneratedUnit) (path : String) (s : σ) : Prop :=
  ∃ text, textAt access s path = .ok text ∧ GeneratedUnit.digestOf text = unit.digest

/-- How a unit is given out: the calls that are made, what they come to, and what is told. -/
inductive Delivers (unit : GeneratedUnit) :
    Option String → σ → Except Failure Unit → String → σ → Prop
  | printed {s : σ} : Delivers unit none s (.ok ()) unit.source s
  | directoryRefused {directory : String} {s s' : σ} {e : Files.Error}
      (made : (access.createDirectories directory).run s = (.error e, s'))
      (directories : AddsDirectories look s s') :
      Delivers unit (some directory) s (.error (.outputDirectory directory e)) "" s'
  | upToDate {directory : String} {s s' : σ}
      (made : (access.createDirectories directory).run s = (.ok (), s'))
      (directories : AddsDirectories look s s')
      (current : HasDigest access unit (join directory unit.hintName) s') :
      Delivers unit (some directory) s (.ok ()) "" s'
  | written {directory : String} {s between s' : σ} {place : π}
      (made : (access.createDirectories directory).run s = (.ok (), between))
      (directories : AddsDirectories look s between)
      (stale : ¬ HasDigest access unit (join directory unit.hintName) between)
      (wrote : (access.writeText (join directory unit.hintName) unit.source).run between =
        (.ok (), s'))
      (replaced : Replaces look place unit.source between s')
      (readBack : textAt access s' (join directory unit.hintName) = .ok unit.source) :
      Delivers unit (some directory) s (.ok ()) "" s'
  | fileRefused {directory : String} {s between s' : σ} {e : Files.Error}
      (made : (access.createDirectories directory).run s = (.ok (), between))
      (directories : AddsDirectories look s between)
      (stale : ¬ HasDigest access unit (join directory unit.hintName) between)
      (wrote : (access.writeText (join directory unit.hintName) unit.source).run between =
        (.error e, s')) :
      Delivers unit (some directory) s
        (.error (.outputFile (join directory unit.hintName) e)) "" s'

variable {access look} {unit : GeneratedUnit} {s s' : σ}

/-- There is always a way in which a unit is given out.  The calls are made one after the other, and
each answer decides which way it is; that the changes are those of the relation is what is
documented about the calls. -/
theorem exists_delivers (h : access.Lawful look) (unit : GeneratedUnit) (outDir : Option String)
    (s : σ) : ∃ result output s', Delivers access look unit outDir s result output s' := by
  cases outDir with
  | none => exact ⟨_, _, _, .printed⟩
  | some directory =>
    have hadds := h.createDirectories_adds directory s
    cases hmade : (access.createDirectories directory).run s with
    | mk result between =>
      rw [hmade] at hadds
      cases result with
      | error e => exact ⟨_, _, _, .directoryRefused hmade hadds⟩
      | ok =>
        -- the file is looked at behind the new directories, for they may have made it readable
        by_cases hdigest : HasDigest access unit (join directory unit.hintName) between
        · exact ⟨_, _, _, .upToDate hmade hadds hdigest⟩
        · cases hwrote : (access.writeText (join directory unit.hintName) unit.source).run between with
          | mk result s' =>
            cases result with
            | error e => exact ⟨_, _, _, .fileRefused hmade hadds hdigest hwrote⟩
            | ok =>
              obtain ⟨⟨place, hreplaced⟩, hback⟩ := h.writeText_replaces _ _ _ _ hwrote
              exact ⟨_, _, _, .written hmade hadds hdigest hwrote hreplaced hback⟩

/-! ## As the command does it -/

/-- The test of the command is whether there is a text with the digest.  A file that cannot be read,
or is no text, is not up to date. -/
theorem isCurrent_iff {path : String} :
    isCurrent unit (textAt access s path) = true ↔ HasDigest access unit path s := by
  rw [HasDigest]
  cases textAt access s path with
  | ok text =>
    rw [isCurrent, decide_eq_true_eq]
    exact ⟨fun h => ⟨text, rfl, h⟩, fun ⟨_, htext, h⟩ => Except.ok.inj htext ▸ h⟩
  | error e => exact iff_of_false Bool.false_ne_true fun ⟨_, htext, _⟩ => nomatch htext

/-- A file with the digest is left alone, which is told. -/
theorem writeUnit_of_current (h : access.Lawful look) {directory : String} {t : Transcript}
    (hmade : (access.createDirectories directory).run s = (.ok (), s'))
    (hdigest : HasDigest access unit (join directory unit.hintName) s') :
    Runs (writeUnit access directory unit) t s (.ok false)
      { t with events := t.events ++ [.unitUnchanged (join directory unit.hintName)] } s' := by
  have hread := runs_textAt h.readText_state (s := s') (join directory unit.hintName)
  refine (runs_attempt _ hmade).bind ((runs_lift hread).bind ?_)
  rw [if_pos (isCurrent_iff.mpr hdigest)]
  exact (runs_log _).bind (runs_pure false)

/-- Any other file is written.  Only a write that succeeds is told; one that fails is the failure of
the command. -/
theorem writeUnit_of_stale (h : access.Lawful look) {directory : String} {between : σ}
    {t : Transcript} {result : Except Failure Unit}
    (hmade : (access.createDirectories directory).run s = (.ok (), between))
    (hdigest : ¬ HasDigest access unit (join directory unit.hintName) between)
    (hwrote : Runs (attempt (.outputFile (join directory unit.hintName))
      (access.writeText (join directory unit.hintName) unit.source)) t between result t s') :
    Runs (writeUnit access directory unit) t s (result.map fun _ => true)
      { t with events := t.events ++ match result with
        | .ok () => [.unitWritten (join directory unit.hintName) unit.digest]
        | .error _ => [] } s' := by
  have hread := runs_textAt h.readText_state (s := between) (join directory unit.hintName)
  refine (runs_attempt _ hmade).bind ((runs_lift hread).bind ?_)
  rw [if_neg fun hcurrent => hdigest (isCurrent_iff.mp hcurrent)]
  cases result with
  | ok => exact hwrote.bind ((runs_log _).bind (runs_pure true))
  | error e =>
    rw [List.append_nil]
    exact hwrote.bind_error

/-- **It is the way in which the command goes**, with any transcript before it: what is printed
comes behind what has been printed already. -/
theorem Delivers.runs (h : access.Lawful look) {outDir : Option String}
    {result : Except Failure Unit} {output : String}
    (hdelivers : Delivers access look unit outDir s result output s') (t : Transcript) :
    ∃ t', Runs (deliver access outDir unit) t s result t' s' ∧ t'.output = t.output ++ output := by
  -- One case for each way a delivery can end; the refused ones leave through `bind_error`.
  cases hdelivers with
  | printed => exact ⟨_, runs_print unit.source, rfl⟩
  | directoryRefused made =>
    exact ⟨t, ((runs_attempt _ made).bind_error).bind_error, String.append_empty.symm⟩
  | upToDate made directories current =>
    exact ⟨_, (writeUnit_of_current h made current).bind (runs_pure ()), String.append_empty.symm⟩
  | written made directories stale wrote =>
    have hwrite := writeUnit_of_stale h (t := t) made stale (runs_attempt _ wrote)
    exact ⟨_, hwrite.bind (runs_pure ()), String.append_empty.symm⟩
  | fileRefused made directories stale wrote =>
    have hwrite := writeUnit_of_stale h (t := t) made stale (runs_attempt _ wrote)
    exact ⟨_, hwrite.bind_error, String.append_empty.symm⟩

end RouteIndex.Command
