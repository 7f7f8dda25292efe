/-
  The line of a whole pass.

  What a pass does when nobody cancels it is written down here in one piece: `phasesTicks` up to its
  outcome, `endingTicks` for the events of the outcome.  The work inside the phases comes from
  `Findings`, `Extraction` and `Provider`; this file adds the events around it.

  Two facts about the line say where its checks are:

  * a check inside a phase stands between the two events of the phase (`guarded_phaseTicks`);
  * only one check stands outside the phases, right behind the phase that renders
    (`phasesTicks_eq_append`).
-/

import RouteIndex.Generation
import RouteIndex.Proofs.Extraction
import RouteIndex.Proofs.Findings
import RouteIndex.Proofs.Provider.Render

namespace RouteIndex.Generation

open Syntax Pass

/-! ## One phase -/

/-- The ticks of an event that is recorded if progress is wanted. -/
def note (progress : Bool) (e : Event) : List Tick :=
  if progress then [.event e] else []

/-- The ticks of a phase around those of its work. -/
def phaseTicks (progress : Bool) (phase : Phase) (work : List Tick) : List Tick :=
  note progress (.phaseStarted phase) ++ (work ++ note progress (.phaseComplete phase))

variable (progress : Bool) (s : Settings) (trees : List Tree)

/-- An event of progress is recorded if it is wanted; nothing else happens. -/
theorem announce_does (e : Event) : (announce progress e).Does (note progress e) () := by
  cases progress with
  | false => exact does_pure ()
  | true => exact does_record e

/-- A phase does what its work does, between its two events.  The second event is reached because
the line is the one of a pass that is not cancelled. -/
theorem inPhase_does {α : Type} (phase : Phase) {work : Pass α} {ts : List Tick} {a : α}
    (h : work.Does ts a) : (inPhase progress phase work).Does (phaseTicks progress phase ts) a :=
  (announce_does progress _).bind (h.bind ((announce_does progress _).map fun _ => a))

/-- A note is about one event. -/
theorem eq_of_mem_note {progress : Bool} {e : Event} {t : Tick} (h : t ∈ note progress e) :
    t = .event e := by
  cases progress with
  | false => exact (List.not_mem_nil h).elim
  | true => exact List.mem_singleton.mp h

/-- Telling of progress never looks at the flag, so that a quiet pass has the same checks. -/
theorem check_not_mem_note (e : Event) : .check ∉ note progress e :=
  fun h => nomatch eq_of_mem_note h

/-! ## The phases of a pass -/

/-- What the trees of a pass give. -/
def foundIn : Findings :=
  trees.foldl Findings.withTree {}

/-- What is extracted from the trees of a pass. -/
def extractedFrom : Extraction :=
  Extraction.ofSites s.assemblyName (foundIn trees).callSites

/-- The outcome of a pass that is not cancelled. -/
def outcomeOf : Outcome :=
  if s.enabled then
    if (foundIn trees).callSites.isEmpty then .skipped .noCandidates
    else if (extractedFrom s trees).records.isEmpty then .skipped .noRecords
    else .generated
      ⟨.ofSource (Provider.source (providerOptions s) (extractedFrom s trees).records),
        (extractedFrom s trees).records, (extractedFrom s trees).diagnostics⟩
  else .skipped .disabled

/-- The ticks of the scan. -/
def scanTicks : List Tick :=
  phaseTicks progress .scan (Findings.treesTicks {} trees)

/-- The ticks of the extraction. -/
def extractTicks : List Tick :=
  phaseTicks progress .extract (Extraction.ticks s.assemblyName (foundIn trees).callSites)

/-- The ticks of the rendering. -/
def emitTicks : List Tick :=
  phaseTicks progress .emit
    (Provider.renderTicks (providerOptions s) (extractedFrom s trees).records)

/-- The ticks of a pass up to its outcome. -/
def phasesTicks : List Tick :=
  if s.enabled then
    note progress (.passStarted trees.length) ++ (scanTicks progress trees ++
      if (foundIn trees).callSites.isEmpty then []
      else extractTicks progress s trees ++
        if (extractedFrom s trees).records.isEmpty then []
        else emitTicks progress s trees ++ [.check])
  else [.event .switchOff]

/-- **The phases do their line and come to their outcome.** The cases are those of the pass: the
switch, whether there are call sites, and whether there are records. -/
theorem phases_does :
    (phases progress s trees).Does (phasesTicks progress s trees) (outcomeOf s trees) := by
  unfold phases phasesTicks outcomeOf
  by_cases henabled : s.enabled = true
  · simp only [if_pos henabled]
    refine (announce_does progress _).bind
      ((inPhase_does progress .scan (Findings.gather_does trees)).bind ?_)
    -- The pass and its ticks branch on the same three tests, so they are met one branch at a time.
    by_cases hfound : (foundIn trees).callSites.isEmpty = true
    · have hfound' : (trees.foldl Findings.withTree {}).callSites.isEmpty = true := hfound
      simp only [if_pos hfound, if_pos hfound']
      exact does_pure _
    · have hfound' : ¬ (trees.foldl Findings.withTree {}).callSites.isEmpty = true := hfound
      simp only [if_neg hfound, if_neg hfound']
      refine (inPhase_does progress .extract
        (Extraction.ofCallSites_does s.assemblyName (foundIn trees).callSites)).bind ?_
      by_cases hrecords : (extractedFrom s trees).records.isEmpty = true
      · have hrecords' : (Extraction.ofSites s.assemblyName
            (foundIn trees).callSites).records.isEmpty = true := hrecords
        simp only [if_pos hrecords, if_pos hrecords']
        exact does_pure _
      · have hrecords' : ¬ (Extraction.ofSites s.assemblyName
            (foundIn trees).callSites).records.isEmpty = true := hrecords
        simp only [if_neg hrecords, if_neg hrecords']
        exact (inPhase_does progress .emit (Provider.render_does (providerOptions s)
          (extractedFrom s trees).records)).bind (does_check.bind (does_pure _))
  · simp only [if_neg henabled]
    exact (does_record _).bind (does_pure _)

/-! ## The ending -/

/-- The ticks of the events of an outcome. -/
def endingTicks : Outcome → List Tick
  | .skipped reason => note progress (.passSkipped reason)
  | .generated product =>
    .event (.unitGenerated product.unit.hintName product.records.length
      product.diagnostics.length) :: note progress (.passComplete product.records.length)

/-- The events of an outcome. -/
theorem conclude_does (outcome : Outcome) :
    (conclude progress outcome).Does (endingTicks progress outcome) () := by
  cases outcome with
  | skipped reason => exact announce_does progress _
  | generated product => exact (does_record _).bind (announce_does progress _)

/-- Behind the outcome there is no check, so nothing can take a unit back. -/
theorem check_not_mem_endingTicks (outcome : Outcome) : .check ∉ endingTicks progress outcome := by
  cases outcome with
  | skipped reason => exact check_not_mem_note progress _
  | generated product =>
    intro h
    rcases List.mem_cons.mp h with h | h
    · nomatch h
    · exact check_not_mem_note progress _ h

/-! ## Where the checks are -/

/-- A place in a line is inside a phase: the phase has been announced and is not closed before the
place, and it is closed behind it. -/
structure Within (phase : Phase) (before after : List Tick) : Prop where
  opened : .event (.phaseStarted phase) ∈ before
  unclosed : .event (.phaseComplete phase) ∉ before
  closed : .event (.phaseComplete phase) ∈ after

/-- Every check of the part `ts` of a line is inside a phase. -/
def Guarded (pre ts post : List Tick) : Prop :=
  ∀ before after, ts = before ++ .check :: after →
    ∃ phase, Within phase (pre ++ before) (after ++ post)

/-- Where an element of two lists in a row stands: in the first one, with a rest of it and all of
the second behind it, or in the second one. -/
theorem split_append {α : Type} {xs ys before after : List α} {a : α}
    (h : xs ++ ys = before ++ a :: after) :
    (∃ rest, xs = before ++ a :: rest ∧ after = rest ++ ys) ∨
      ∃ rest, before = xs ++ rest ∧ ys = rest ++ a :: after := by
  rcases List.append_eq_append_iff.mp h with ⟨rest, hbefore, hys⟩ | ⟨rest, hxs, hafter⟩
  · exact Or.inr ⟨rest, hbefore, hys⟩
  · cases rest with
    | nil => exact Or.inr ⟨[], by rw [hxs, List.append_nil, List.append_nil], hafter.symm⟩
    | cons b rest =>
      obtain ⟨hhead, htail⟩ := List.cons.inj hafter
      exact Or.inl ⟨rest, hhead ▸ hxs, htail⟩

/-- A part without checks has none to guard. -/
theorem guarded_of_not_mem {ts : List Tick} (h : .check ∉ ts) (pre post : List Tick) :
    Guarded pre ts post := by
  intro before after hsplit
  refine absurd ?_ h
  rw [hsplit]
  exact List.mem_append_right before List.mem_cons_self

/-- Parts of a line can be looked at one by one, each with the others before and behind it. -/
theorem Guarded.append {pre ts us post : List Tick} (hts : Guarded pre ts (us ++ post))
    (hus : Guarded (pre ++ ts) us post) : Guarded pre (ts ++ us) post := by
  intro before after hsplit
  rcases split_append hsplit with ⟨rest, hbefore, hafter⟩ | ⟨rest, hbefore, hafter⟩
  · rw [hafter, List.append_assoc]
    exact hts before rest hbefore
  · rw [hbefore, ← List.append_assoc]
    exact hus rest after hafter

/-- **The checks of the work of a phase are inside the phase**: its first event is before them and
its last one behind them, and the work itself has neither. -/
theorem guarded_phaseTicks {phase : Phase} {work pre : List Tick} (hwork : IsWork work)
    (hpre : .event (.phaseComplete phase) ∉ pre) (post : List Tick) :
    Guarded pre (phaseTicks true phase work) post := by
  intro before after hsplit
  -- the check is in the work, since the events in front of it and behind it are no checks
  rcases split_append hsplit with ⟨rest, hstarted, -⟩ | ⟨rest, hstarted, hrest⟩
  · refine absurd ?_ (check_not_mem_note true (.phaseStarted phase))
    rw [hstarted]
    exact List.mem_append_right before List.mem_cons_self
  · rcases split_append hrest with ⟨late, hearly, hafter⟩ | ⟨late, -, hcomplete⟩
    · refine ⟨phase, ?_, ?_, ?_⟩
      · rw [hstarted]
        exact List.mem_append_right pre (List.mem_append_left rest List.mem_cons_self)
      · intro hmem
        rw [hstarted] at hmem
        rcases List.mem_append.mp hmem with hmem | hmem
        · exact hpre hmem
        · rcases List.mem_append.mp hmem with hmem | hmem
          · nomatch List.mem_singleton.mp hmem
          · have hmem' : .event (.phaseComplete phase) ∈ work := by
              rw [hearly]
              exact List.mem_append_left _ hmem
            exact Bool.false_ne_true (hwork _ hmem')
      · rw [hafter]
        exact List.mem_append_left post (List.mem_append_right late List.mem_cons_self)
    · refine absurd ?_ (check_not_mem_note true (.phaseComplete phase))
      rw [hcomplete]
      exact List.mem_append_right late List.mem_cons_self

/-- A phase closes no phase but itself, so a phase that has been announced stays open until its own
last event. -/
theorem complete_not_mem_phaseTicks {phase other : Phase} {work : List Tick} (hwork : IsWork work)
    (hne : other ≠ phase) : .event (.phaseComplete other) ∉ phaseTicks progress phase work := by
  intro h
  rcases List.mem_append.mp h with h | h
  · nomatch eq_of_mem_note h
  · rcases List.mem_append.mp h with h | h
    · exact Bool.false_ne_true (hwork _ h)
    · exact hne (Event.phaseComplete.inj (Tick.event.inj (eq_of_mem_note h)))

/-- A part of a line that ends with the phase that renders. -/
def EndsEmit (ts : List Tick) : Prop :=
  ∃ start functions bytes flag, ts =
    start ++ .event (.providerRendered functions bytes flag) :: note progress (.phaseComplete .emit)

/-- Whatever stands before it, a line that ends with the ticks of rendering ends with that phase. -/
theorem endsEmit_append_emitTicks (start : List Tick) :
    EndsEmit progress (start ++ emitTicks progress s trees) := by
  refine ⟨start ++ (note progress (.phaseStarted .emit) ++
    (extractedFrom s trees).records.map fun _ => .check),
    (extractedFrom s trees).records.length,
    (Provider.source (providerOptions s) (extractedFrom s trees).records).utf8ByteSize,
    s.autoRegister, ?_⟩
  simp only [emitTicks, phaseTicks, Provider.renderTicks, List.append_assoc, List.singleton_append]
  rfl

theorem complete_not_mem_scanTicks {phase : Phase} (h : phase ≠ .scan) :
    .event (.phaseComplete phase) ∉ scanTicks progress trees :=
  complete_not_mem_phaseTicks progress (Findings.isWork_treesTicks trees {}) h

theorem complete_not_mem_extractTicks {phase : Phase} (h : phase ≠ .extract) :
    .event (.phaseComplete phase) ∉ extractTicks progress s trees :=
  complete_not_mem_phaseTicks progress (Extraction.isWork_ticks s.assemblyName _) h

/-- The scan comes first; nothing has been closed before it. -/
theorem guarded_scanTicks (post : List Tick) :
    Guarded [] (note true (.passStarted trees.length) ++ scanTicks true trees) post := by
  refine (guarded_of_not_mem (check_not_mem_note true _) [] _).append
    (guarded_phaseTicks (Findings.isWork_treesTicks trees {}) ?_ post)
  intro h
  rw [List.nil_append] at h
  nomatch eq_of_mem_note h

/-- The extraction comes behind the scan, which has closed only itself. -/
theorem guarded_extractTicks (post : List Tick) :
    Guarded [] (note true (.passStarted trees.length) ++ scanTicks true trees ++
      extractTicks true s trees) post := by
  refine (guarded_scanTicks trees _).append
    (guarded_phaseTicks (Extraction.isWork_ticks s.assemblyName _) ?_ post)
  intro h
  rw [List.nil_append] at h
  rcases List.mem_append.mp h with h | h
  · nomatch eq_of_mem_note h
  · exact complete_not_mem_scanTicks true trees (by decide) h

/-- Rendering comes behind both. -/
theorem guarded_emitTicks (post : List Tick) :
    Guarded [] (note true (.passStarted trees.length) ++ scanTicks true trees ++
      extractTicks true s trees ++ emitTicks true s trees) post := by
  refine (guarded_extractTicks s trees _).append
    (guarded_phaseTicks (Provider.isWork_renderTicks _ _) ?_ post)
  intro h
  rw [List.nil_append] at h
  rcases List.mem_append.mp h with h | h
  · rcases List.mem_append.mp h with h | h
    · nomatch eq_of_mem_note h
    · exact complete_not_mem_scanTicks true trees (by decide) h
  · exact complete_not_mem_extractTicks true s trees (by decide) h

/-- The line of a pass up to its outcome: phases, whose checks are inside them, and behind them the
last check if there is a unit to be given out. -/
theorem phasesTicks_eq_append : ∃ inside last, phasesTicks progress s trees = inside ++ last ∧
    (progress = true → ∀ post, Guarded [] inside post) ∧
    (last = [] ∧ (outcomeOf s trees).isSkipped = true ∨
      last = [.check] ∧ EndsEmit progress inside) := by
  unfold phasesTicks outcomeOf
  by_cases henabled : s.enabled = true
  · simp only [if_pos henabled]
    by_cases hfound : (foundIn trees).callSites.isEmpty = true
    · simp only [if_pos hfound, List.append_nil]
      refine ⟨_, [], (List.append_nil _).symm, ?_, Or.inl ⟨rfl, rfl⟩⟩
      rintro rfl post
      exact guarded_scanTicks trees post
    · simp only [if_neg hfound]
      -- Only the branch that emits has a check behind its phases.
      by_cases hrecords : (extractedFrom s trees).records.isEmpty = true
      · simp only [if_pos hrecords, List.append_nil, ← List.append_assoc]
        refine ⟨_, [], (List.append_nil _).symm, ?_, Or.inl ⟨rfl, rfl⟩⟩
        rintro rfl post
        exact guarded_extractTicks s trees post
      · simp only [if_neg hrecords, ← List.append_assoc]
        refine ⟨_, [.check], rfl, ?_, Or.inr ⟨rfl, endsEmit_append_emitTicks progress s trees _⟩⟩
        rintro rfl post
        exact guarded_emitTicks s trees post
  · simp only [if_neg henabled]
    have hcheck : Tick.check ∉ [Tick.event .switchOff] := by decide
    exact ⟨[.event .switchOff], [], rfl, fun _ => guarded_of_not_mem hcheck [], Or.inl ⟨rfl, rfl⟩⟩

end RouteIndex.Generation
