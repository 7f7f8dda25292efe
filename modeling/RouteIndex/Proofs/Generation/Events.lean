/-
  The events of a pass, from its first to its last.

  A pass tells of itself in three layers: the events around its phases, the events of the work inside
  them, and the ending.  `IsLog` writes down which events a pass may record, in which order and with
  which numbers, for every way in which it ends.

  1. **Work** — the events inside a phase are those of its ticks.  In a scan these are the call sites
     of each tree and then one event with their number (`Findings.eventsOf_treesTicks`, by induction on
     the trees, with what has been found before them left open).
  2. **Runs** — a pass does its line of ticks to the end, or it stops in front of a check
     (`generate_run_cases`).
  3. **Cuts** — a check is inside the work of a phase, and all phases before it are closed; or it is
     the last one, and all phases are (`cut_of_check`).
  4. **Logs** — so the events of every run are as `IsLog` says (`isLog_of_done`, `isLog_of_cut`).
  5. **The driver's events** — those around the phases are a log in which the phases have no work
     (`IsLog.driver`), so which phases were opened and how the pass ended can be told from the result
     (`IsLog.matches`).  **`generate_log`** says all of this.
-/

import RouteIndex.Proofs.Generation.Records

namespace RouteIndex

open Syntax

/-! ## Events of ticks -/

/-- The events among some ticks. -/
def eventsOf (ts : List Tick) : List Event :=
  ts.filterMap Tick.event?

/-- The events of two lines in a row. -/
theorem eventsOf_append (ts us : List Tick) : eventsOf (ts ++ us) = eventsOf ts ++ eventsOf us :=
  List.filterMap_append

theorem eventsOf_cons_event (e : Event) (ts : List Tick) :
    eventsOf (.event e :: ts) = e :: eventsOf ts :=
  rfl

/-- Events that are recorded are told as they are. -/
theorem eventsOf_map_event (es : List Event) : eventsOf (es.map .event) = es := by
  rw [eventsOf, List.filterMap_map]
  exact List.filterMap_some

/-- An event is told exactly if it is recorded. -/
theorem mem_eventsOf {e : Event} {ts : List Tick} : e ∈ eventsOf ts ↔ .event e ∈ ts := by
  rw [eventsOf, List.mem_filterMap]
  constructor
  · rintro ⟨t, ht, he⟩
    cases t with
    | event e' => rwa [← Option.some.inj he]
    | node => nomatch he
    | check => nomatch he
  · exact fun h => ⟨_, h, rfl⟩

/-! ## Work -/

/-- The events of the scan of one tree: its call sites, and how many they are. -/
def Syntax.Tree.scanEvents (tree : Tree) : List Event :=
  tree.callSites.map (fun site => .callSiteMatched site.method) ++
    [.treeScanned tree.label tree.callSites.length]

/-- The call sites of a tree, found on a walk over it, are those that are found by recursion. -/
theorem Syntax.Tree.filterMap_visits (tree : Tree) :
    (Walk.start tree.root).visits.filterMap CallSite.ofVisit? = tree.callSites := by
  rw [Walk.visits_start_eq_map_places, List.filterMap_map]
  rfl

namespace Findings

/-- A visit tells of a call site where it finds one.  It tells nothing of the node or of its
checks. -/
theorem eventsOf_visitTicks (found : Findings) (v : Visit) :
    eventsOf (found.visitTicks v) =
      (CallSite.ofVisit? v).toList.map fun site => .callSiteMatched site.method := by
  have hcheck : eventsOf (if (found.visited + 1) % checkInterval = 0 then [.check] else []) = [] := by
    split <;> rfl
  rw [visitTicks, eventsOf_append, hcheck]
  cases CallSite.ofVisit? v <;> rfl

/-- The visits of a walk tell of the call sites that they find, in their order. -/
theorem eventsOf_visitsTicks (vs : List Visit) : ∀ found : Findings,
    eventsOf (found.visitsTicks vs) =
      (vs.filterMap CallSite.ofVisit?).map fun site => .callSiteMatched site.method := by
  induction vs with
  | nil => exact fun _ => rfl
  | cons v vs ih =>
    intro found
    rw [visitsTicks, eventsOf_append, eventsOf_visitTicks, ih, ← List.map_append]
    cases hv : CallSite.ofVisit? v with
    | none => rw [List.filterMap_cons_none hv]; rfl
    | some site => rw [List.filterMap_cons_some hv]; rfl

/-- A tree tells of its call sites and then how many they are.  The number is that of this tree
only, although the findings go on from tree to tree. -/
theorem eventsOf_treeTicks (found : Findings) (tree : Tree) :
    eventsOf (found.treeTicks tree) = tree.scanEvents := by
  have hcount : (found.withTree tree).callSites.length - found.callSites.length =
      tree.callSites.length := by
    rw [withTree_eq, List.length_append, Nat.add_sub_cancel_left]
    rfl
  rw [treeTicks, eventsOf_append, eventsOf_visitsTicks, Tree.filterMap_visits, hcount]
  rfl

/-- The events of a scan, whatever has been found before it.  The induction is over the trees. -/
theorem eventsOf_treesTicks (trees : List Tree) : ∀ found : Findings,
    eventsOf (found.treesTicks trees) = trees.flatMap Tree.scanEvents := by
  induction trees with
  | nil => exact fun _ => rfl
  | cons tree trees ih =>
    intro found
    rw [treesTicks, eventsOf_append, eventsOf_treeTicks, ih, List.flatMap_cons]

end Findings

namespace Extraction

/-- The events of the extraction of one call site. -/
def siteEvents (position : Nat) (site : CallSite) : List Event :=
  if site.route? = none then [.routeNotLiteral position] else []

/-- A call site tells of its causes.  Since its method has a verb, a missing verb is none of them. -/
theorem eventsOf_siteTicks (assembly : String) (position : Nat) {site : CallSite}
    (h : site.method ∈ CallSite.methods) :
    eventsOf (siteTicks assembly position site) = siteEvents position site := by
  obtain ⟨verb, hverb⟩ := CallSite.mem_methods_iff.mp h
  have hevents : (site.read assembly position).2.filterMap (·.event? position) =
      siteEvents position site := by
    unfold CallSite.read siteEvents
    rw [hverb]
    cases site.route? with
    | none => cases site.retry <;> rfl
    | some route => cases site.retry <;> rfl
  show eventsOf (((site.read assembly position).2.filterMap (·.event? position)).map .event) = _
  rw [eventsOf_map_event, hevents]

/-- The call sites of an extraction tell of theirs, each at its position. -/
theorem eventsOf_sitesTicks (assembly : String) {sites : List CallSite}
    (h : ∀ site ∈ sites, site.method ∈ CallSite.methods) (k : Nat) :
    eventsOf (sitesTicks assembly k sites) =
      (sites.zipIdx k).flatMap fun c => siteEvents c.2 c.1 := by
  induction sites generalizing k with
  | nil => rfl
  | cons site sites ih =>
    obtain ⟨hsite, hsites⟩ := List.forall_mem_cons.mp h
    rw [sitesTicks, eventsOf_append, eventsOf_siteTicks assembly k hsite, ih hsites,
      List.zipIdx_cons, List.flatMap_cons]

end Extraction

namespace Generation

open Pass

variable (s : Settings) (trees : List Tree)

/-- The ticks of the work of a phase. -/
def workTicks : Phase → List Tick
  | .scan => Findings.treesTicks {} trees
  | .extract => Extraction.ticks s.assemblyName (foundIn trees).callSites
  | .emit => Provider.renderTicks (providerOptions s) (extractedFrom s trees).records

/-- The events of the work of a phase, all of them. -/
def workEvents : Phase → List Event
  | .scan => trees.flatMap Tree.scanEvents
  | .extract =>
    (trees.flatMap Tree.callSites).zipIdx.flatMap (fun c => Extraction.siteEvents c.2 c.1) ++
      [.recordsExtracted (extractedFrom s trees).records.length
        (extractedFrom s trees).diagnostics.length]
  | .emit =>
    [.providerRendered (extractedFrom s trees).records.length
      (Provider.source (providerOptions s) (extractedFrom s trees).records).utf8ByteSize
      s.autoRegister]

/-- The events of the work of a phase, told apart from its ticks.  The cases are the three phases. -/
theorem eventsOf_workTicks (phase : Phase) :
    eventsOf (workTicks s trees phase) = workEvents s trees phase := by
  cases phase with
  | scan => exact Findings.eventsOf_treesTicks trees {}
  | extract =>
    have hsites := Extraction.eventsOf_sitesTicks s.assemblyName
      (method_mem_of_mem_callSites trees) 0
    rw [workTicks, workEvents, extractedFrom_eq, foundIn_eq, Extraction.ticks, eventsOf_append,
      hsites]
    rfl
  | emit =>
    have hchecks (rs : List FunctionRecord) : eventsOf (rs.map fun _ => .check) = [] :=
      List.filterMap_eq_nil_iff.mpr fun t ht => by
        obtain ⟨r, -, rfl⟩ := List.mem_map.mp ht
        rfl
    rw [workTicks, workEvents, Provider.renderTicks, eventsOf_append, hchecks]
    rfl

/-- The work of a phase tells nothing but events of work. -/
theorem isWork_of_mem_workEvents {phase : Phase} {e : Event} (he : e ∈ workEvents s trees phase) :
    e.isWork = true := by
  rw [← eventsOf_workTicks, mem_eventsOf] at he
  cases phase with
  | scan => exact Findings.isWork_treesTicks trees {} e he
  | extract => exact Extraction.isWork_ticks s.assemblyName _ e he
  | emit => exact Provider.isWork_renderTicks _ _ e he

/-! ## Runs -/

variable {s trees}

/-- A list with a check in it, up to the first of them. -/
theorem exists_eq_takeWhile_append {ts : List Tick} (h : .check ∈ ts) :
    ∃ rest, ts = ts.takeWhile (· ≠ .check) ++ .check :: rest := by
  induction ts with
  | nil => exact (List.not_mem_nil h).elim
  | cons t ts ih =>
    by_cases ht : t = .check
    · exact ⟨ts, by rw [ht]; rfl⟩
    · obtain ⟨rest, hrest⟩ := ih ((List.mem_cons.mp h).resolve_left fun h => ht h.symm)
      have htake : (t :: ts).takeWhile (· ≠ .check) = t :: ts.takeWhile (· ≠ .check) :=
        List.takeWhile_cons_of_pos (decide_eq_true ht)
      exact ⟨rest, by rw [htake, List.cons_append, ← hrest]⟩

/-- **A pass does its line to the end, or it stops in front of a check.** There is no third way:
whatever the watch is, it was live to the end, or there is a moment at which it was cancelled. -/
theorem generate_run_cases (progress : Bool) (s : Settings) (trees : List Tree) (w : Watch) :
    (generate progress s trees).run w =
      (.ok (outcomeOf s trees), w.after (ticksOf progress s trees)) ∨
    ∃ before after, ticksOf progress s trees = before ++ .check :: after ∧
      (generate progress s trees).run w =
        (.error .cancelled, w.after (before ++ note progress .passCancelled)) := by
  by_cases hw : (w.after (ticksOf progress s trees)).cancelled = true
  · obtain ⟨early, late, hsplit, hmoment⟩ := Watch.cancelsAfter_of_cancelled hw
    have hrun := generate_of_cancelsAfter hsplit hmoment
    by_cases hcheck : Tick.check ∈ late
    · obtain ⟨rest, hlate⟩ := exists_eq_takeWhile_append hcheck
      rw [if_pos hcheck] at hrun
      refine Or.inr ⟨_, rest, ?_, hrun⟩
      rw [hsplit, List.append_assoc, ← hlate]
    · rw [if_neg hcheck] at hrun
      exact Or.inl hrun
  · exact Or.inl (generate_of_live (Bool.eq_false_iff.mpr hw))

/-! ## Cuts -/

variable (s trees)

/-- The ticks of a whole phase. -/
def wholeTicks (phase : Phase) : List Tick :=
  phaseTicks true phase (workTicks s trees phase)

/-- The phases of a pass that is switched on, unless it is cancelled. -/
def reached : List Phase :=
  if trees.flatMap Tree.callSites = [] then [.scan] else [.scan, .extract, .emit]

/-- The ticks behind the last phase. -/
def lastTicks : List Tick :=
  if trees.flatMap Tree.callSites = [] then [] else [.check]

/-- The line of a pass that is switched on, phase by phase.  How many phases there are depends on
whether there are call sites, and on nothing else. -/
theorem phasesTicks_eq (h : s.enabled = true) :
    phasesTicks true s trees = .event (.passStarted trees.length) ::
      ((reached trees).flatMap (wholeTicks s trees) ++ lastTicks trees) := by
  have hrecords := length_records s trees
  unfold phasesTicks reached lastTicks
  rw [foundIn_eq] at hrecords ⊢
  -- Without call sites the pass ends behind the scan, with them it has all three phases.
  by_cases hsites : trees.flatMap Tree.callSites = []
  · rw [if_pos h, if_pos hsites, if_pos hsites, if_pos (List.isEmpty_iff.mpr hsites),
      List.flatMap_singleton]
    rfl
  · have hnonempty : ¬ (extractedFrom s trees).records.isEmpty = true := by
      rw [List.isEmpty_iff_length_eq_zero, hrecords]
      exact fun hlength => hsites (List.length_eq_zero_iff.mp hlength)
    rw [if_pos h, if_neg hsites, if_neg hsites, if_neg fun hnil => hsites (List.isEmpty_iff.mp hnil),
      if_neg hnonempty]
    simp only [List.flatMap_cons, List.flatMap_nil, List.append_nil, List.append_assoc]
    rfl

/-- A check in a phase is in the work of the phase, for the events around the work are no checks.
So a phase that is cut has announced its start, and nothing of its end. -/
theorem work_of_check {phase : Phase} {before after : List Tick}
    (h : wholeTicks s trees phase = before ++ .check :: after) :
    ∃ early late, workTicks s trees phase = early ++ .check :: late ∧
      before = .event (.phaseStarted phase) :: early := by
  rcases split_append h with ⟨rest, hstart, -⟩ | ⟨early, rfl, hwork⟩
  · refine absurd ?_ (check_not_mem_note true (.phaseStarted phase))
    rw [hstart]
    exact List.mem_append_right before List.mem_cons_self
  · rcases split_append hwork with ⟨late, hlate, -⟩ | ⟨rest, -, hend⟩
    · exact ⟨early, late, hlate, rfl⟩
    · refine absurd ?_ (check_not_mem_note true (.phaseComplete phase))
      rw [hend]
      exact List.mem_append_right rest List.mem_cons_self

/-- A check in some phases is in the work of one of them, behind the whole of those before it.  The
induction is over the phases. -/
theorem phase_of_check (phases : List Phase) {before after : List Tick}
    (h : phases.flatMap (wholeTicks s trees) = before ++ .check :: after) :
    ∃ done phase rest early late, phases = done ++ phase :: rest ∧
      workTicks s trees phase = early ++ .check :: late ∧
      before = done.flatMap (wholeTicks s trees) ++ .event (.phaseStarted phase) :: early := by
  induction phases generalizing before with
  | nil => exact absurd h.symm (List.append_ne_nil_of_right_ne_nil before (List.cons_ne_nil _ _))
  | cons phase phases ih =>
    rw [List.flatMap_cons] at h
    rcases split_append h with ⟨rest, hphase, -⟩ | ⟨behind, rfl, hphases⟩
    · obtain ⟨early, late, hwork, rfl⟩ := work_of_check s trees hphase
      exact ⟨[], phase, phases, early, late, rfl, hwork, rfl⟩
    · obtain ⟨done, next, rest, early, late, rfl, hwork, rfl⟩ := ih hphases
      refine ⟨phase :: done, next, rest, early, late, rfl, hwork, ?_⟩
      rw [List.flatMap_cons, List.append_assoc]

/-- **Where a pass can be cut**: in the work of a phase, behind the whole of those before it, or behind
all of its phases. -/
theorem cut_of_check (h : s.enabled = true) {before after : List Tick}
    (hticks : ticksOf true s trees = before ++ .check :: after) :
    (∃ done phase rest early late, reached trees = done ++ phase :: rest ∧
      workTicks s trees phase = early ++ .check :: late ∧
      before = .event (.passStarted trees.length) ::
        (done.flatMap (wholeTicks s trees) ++ .event (.phaseStarted phase) :: early)) ∨
    trees.flatMap Tree.callSites ≠ [] ∧
      before = .event (.passStarted trees.length) :: (reached trees).flatMap (wholeTicks s trees) := by
  rw [ticksOf, phasesTicks_eq s trees h] at hticks
  rcases split_append hticks with ⟨rest, hphases, -⟩ | ⟨rest, -, hending⟩
  · cases before with
    | nil => cases (List.cons.inj hphases).1
    | cons t before =>
      obtain ⟨rfl, hbefore⟩ := List.cons.inj hphases
      -- A check inside a phase cuts that phase; the one behind them leaves all of them whole.
      rcases split_append hbefore with ⟨behind, hwork, -⟩ | ⟨behind, rfl, hlast⟩
      · obtain ⟨done, phase, later, early, late, hreached, hcheck, rfl⟩ :=
          phase_of_check s trees (reached trees) hwork
        exact Or.inl ⟨done, phase, later, early, late, hreached, hcheck, rfl⟩
      · right
        unfold lastTicks at hlast
        split at hlast
        · exact absurd hlast.symm
            (List.append_ne_nil_of_right_ne_nil behind (List.cons_ne_nil _ _))
        · next hsites =>
          refine ⟨hsites, ?_⟩
          cases behind with
          | nil => rw [List.append_nil]
          | cons t behind =>
            exact absurd (List.cons.inj hlast).2.symm
              (List.append_ne_nil_of_right_ne_nil behind (List.cons_ne_nil _ _))
  · refine absurd ?_ (check_not_mem_endingTicks true (outcomeOf s trees))
    rw [hending]
    exact List.mem_append_right rest List.mem_cons_self

/-! ## Logs -/

/-- The events of a whole phase with this work inside it. -/
def wholeEvents (inside : Phase → List Event) (phase : Phase) : List Event :=
  .phaseStarted phase :: (inside phase ++ [.phaseComplete phase])

/-- The events that a pass may record, in their order, for each of its results; `inside` are those of
the work of a phase.  A phase that is cut is the only one that is not closed, and no phase is opened
behind it. -/
inductive IsLog (inside : Phase → List Event) (s : Settings) (trees : List Tree) :
    Except Cancelled Outcome → List Event → Prop where
  | switchedOff (h : s.enabled = false) :
      IsLog inside s trees (.ok (.skipped .disabled)) [.switchOff, .passSkipped .disabled]
  | noCandidates (h : s.enabled = true) (hsites : trees.flatMap Tree.callSites = []) :
      IsLog inside s trees (.ok (.skipped .noCandidates))
        (.passStarted trees.length :: (wholeEvents inside .scan ++ [.passSkipped .noCandidates]))
  | generated {product : Product} (h : s.enabled = true)
      (hsites : trees.flatMap Tree.callSites ≠ [])
      (hrecords : product.records.length = (trees.flatMap Tree.callSites).length) :
      IsLog inside s trees (.ok (.generated product))
        (.passStarted trees.length ::
          ([Phase.scan, .extract, .emit].flatMap (wholeEvents inside) ++
            [.unitGenerated product.unit.hintName product.records.length product.diagnostics.length,
              .passComplete product.records.length]))
  | cut {done rest : List Phase} {phase : Phase} {early late : List Event} (h : s.enabled = true)
      (hphases : reached trees = done ++ phase :: rest) (hwork : inside phase = early ++ late) :
      IsLog inside s trees (.error .cancelled)
        (.passStarted trees.length ::
          (done.flatMap (wholeEvents inside) ++ .phaseStarted phase :: early ++ [.passCancelled]))
  | cutLate (h : s.enabled = true) (hsites : trees.flatMap Tree.callSites ≠ []) :
      IsLog inside s trees (.error .cancelled)
        (.passStarted trees.length ::
          ([Phase.scan, .extract, .emit].flatMap (wholeEvents inside) ++ [.passCancelled]))

/-- A whole phase tells of its beginning, of its work, and of its end. -/
theorem eventsOf_wholeTicks (phase : Phase) :
    eventsOf (wholeTicks s trees phase) = wholeEvents (workEvents s trees) phase := by
  rw [wholeTicks, phaseTicks, eventsOf_append, eventsOf_append, eventsOf_workTicks]
  rfl

theorem eventsOf_flatMap_wholeTicks (phases : List Phase) :
    eventsOf (phases.flatMap (wholeTicks s trees)) =
      phases.flatMap (wholeEvents (workEvents s trees)) := by
  rw [eventsOf, List.filterMap_flatMap]
  exact List.flatMap_congr fun phase _ => eventsOf_wholeTicks s trees phase

/-- The events of a pass that is not cut: one case for each of its outcomes.  They are those of the
whole line, so the counts inside the phases are the ones of the whole result. -/
theorem isLog_of_done :
    IsLog (workEvents s trees) s trees (.ok (outcomeOf s trees))
      (eventsOf (ticksOf true s trees)) := by
  by_cases h : s.enabled = true
  · -- The three ways a pass can end are the three constructors without a cut.
    by_cases hsites : trees.flatMap Tree.callSites = []
    · have houtcome : outcomeOf s trees = .skipped .noCandidates := by
        rw [outcomeOf_eq, h, if_neg (by decide), inspectionOf_eq, hsites]
        rfl
      rw [ticksOf, phasesTicks_eq s trees h, reached, lastTicks, if_pos hsites, if_pos hsites,
        houtcome, List.append_nil, eventsOf_append, eventsOf_cons_event,
        eventsOf_flatMap_wholeTicks, List.flatMap_singleton]
      exact .noCandidates h hsites
    · obtain ⟨product, houtcome, hrecords⟩ := exists_outcomeOf_eq_generated h hsites
      rw [ticksOf, phasesTicks_eq s trees h, reached, lastTicks, if_neg hsites, if_neg hsites,
        houtcome, eventsOf_append, eventsOf_cons_event, eventsOf_append,
        eventsOf_flatMap_wholeTicks, List.cons_append, List.append_assoc]
      exact .generated h hsites hrecords
  · have hphases : phasesTicks true s trees = [.event .switchOff] := by
      rw [phasesTicks, if_neg h]
    rw [ticksOf, hphases, outcomeOf, if_neg h]
    exact .switchedOff (Bool.eq_false_iff.mpr h)

/-- The events of a pass that stops in front of a check: it stands in a phase, or behind all of
them. -/
theorem isLog_of_cut {before after : List Tick}
    (hticks : ticksOf true s trees = before ++ .check :: after) :
    IsLog (workEvents s trees) s trees (.error .cancelled)
      (eventsOf (before ++ note true .passCancelled)) := by
  have h : s.enabled = true := by
    rw [← Bool.not_eq_false]
    intro h
    -- without its phases, a pass has no checks
    have hmem : Tick.check ∈ ticksOf true s trees := by
      rw [hticks]
      exact List.mem_append_right before List.mem_cons_self
    rw [ticksOf, phasesTicks, outcomeOf, h] at hmem
    simp [endingTicks, note] at hmem
  rw [eventsOf_append]
  rcases cut_of_check s trees h hticks with ⟨done, phase, rest, early, late, hphases, hwork, rfl⟩ |
    ⟨hsites, rfl⟩
  · have hevents : workEvents s trees phase = eventsOf early ++ eventsOf (.check :: late) := by
      rw [← eventsOf_workTicks, hwork, eventsOf_append]
    rw [eventsOf_cons_event, eventsOf_append, eventsOf_flatMap_wholeTicks, eventsOf_cons_event]
    exact .cut h hphases hevents
  · rw [eventsOf_cons_event, eventsOf_flatMap_wholeTicks, reached, if_neg hsites]
    exact .cutLate h hsites

/-! ## The driver's events -/

/-- The events around the phases. -/
def driverEvents (log : List Event) : List Event :=
  log.filter fun e => !e.isWork

/-- The log of a phase that does nothing. -/
def idle : Phase → List Event :=
  fun _ => []

variable {s trees}
variable {inside : Phase → List Event} {result : Except Cancelled Outcome} {log : List Event}

/-- Work is not the driver's, so nothing is left of it. -/
theorem driverEvents_of_work {es : List Event} (h : ∀ e ∈ es, e.isWork = true) :
    driverEvents es = [] := by
  rw [driverEvents, List.filter_eq_nil_iff]
  intro e he
  rw [h e he]
  decide

theorem driverEvents_append (es fs : List Event) :
    driverEvents (es ++ fs) = driverEvents es ++ driverEvents fs :=
  List.filter_append es fs

/-- A phase is left as one that does nothing. -/
theorem driverEvents_wholeEvents (h : ∀ phase, ∀ e ∈ inside phase, e.isWork = true)
    (phase : Phase) : driverEvents (wholeEvents inside phase) = wholeEvents idle phase := by
  show .phaseStarted phase :: driverEvents (inside phase ++ [.phaseComplete phase]) = _
  rw [driverEvents_append, driverEvents_of_work (h phase)]
  rfl

theorem driverEvents_flatMap (h : ∀ phase, ∀ e ∈ inside phase, e.isWork = true)
    (phases : List Phase) :
    driverEvents (phases.flatMap (wholeEvents inside)) = phases.flatMap (wholeEvents idle) := by
  induction phases with
  | nil => rfl
  | cons phase phases ih =>
    rw [List.flatMap_cons, driverEvents_append, driverEvents_wholeEvents h, ih, List.flatMap_cons]

/-- **The driver's events are a log in which no phase does anything.** So what holds of all logs
holds of them, and the work inside the phases can be forgotten. -/
theorem IsLog.driver (h : IsLog inside s trees result log)
    (hwork : ∀ phase, ∀ e ∈ inside phase, e.isWork = true) :
    IsLog idle s trees result (driverEvents log) := by
  cases h with
  | switchedOff h => exact .switchedOff h
  | noCandidates h hsites =>
    show IsLog idle s trees _ (.passStarted _ :: driverEvents (_ ++ _))
    rw [driverEvents_append, driverEvents_wholeEvents hwork]
    exact .noCandidates h hsites
  | generated h hsites hrecords =>
    show IsLog idle s trees _ (.passStarted _ :: driverEvents (_ ++ _))
    rw [driverEvents_append, driverEvents_flatMap hwork]
    exact .generated h hsites hrecords
  | @cut done rest phase early late h hphases hinside =>
    -- Of a phase that was cut only its start is the driver's.
    have hearly : driverEvents (.phaseStarted phase :: early) = [.phaseStarted phase] :=
      congrArg (.phaseStarted phase :: ·) (driverEvents_of_work fun e he =>
        hwork phase e (hinside ▸ List.mem_append_left late he))
    show IsLog idle s trees _ (.passStarted _ :: driverEvents (_ ++ _ ++ _))
    rw [driverEvents_append, driverEvents_append, driverEvents_flatMap hwork, hearly]
    exact .cut h hphases rfl
  | cutLate h hsites =>
    show IsLog idle s trees _ (.passStarted _ :: driverEvents (_ ++ _))
    rw [driverEvents_append, driverEvents_flatMap hwork]
    exact .cutLate h hsites

/-- Whether an event tells the end of a pass. -/
def isEnding : Event → Bool
  | .passSkipped _ | .unitGenerated .. | .passComplete _ | .passCancelled => true
  | _ => false

/-- The events of the end of a pass with this result. -/
def endingEvents : Except Cancelled Outcome → List Event
  | .ok (.skipped reason) => [.passSkipped reason]
  | .ok (.generated product) =>
    [.unitGenerated product.unit.hintName product.records.length product.diagnostics.length,
      .passComplete product.records.length]
  | .error .cancelled => [.passCancelled]

/-- The phase that an event opens, if it opens one. -/
def opened? : Event → Option Phase
  | .phaseStarted phase => some phase
  | _ => none

/-- How the events around the phases go with the result: there is one ending, that of the result; no
phase is opened where the switch is off; and the scan is the only one where it has found nothing or is
cut itself, and all three are opened where there is a unit or the last one is cut, or the pass behind it. -/
structure Matches (s : Settings) (result : Except Cancelled Outcome) (log : List Event) : Prop where
  ending : log.filter isEnding = endingEvents result
  off : log.filterMap opened? = [] ↔ s.enabled = false
  onlyScan : log.filterMap opened? = [.scan] ↔ result = .ok (.skipped .noCandidates) ∨
    result = .error .cancelled ∧ .phaseComplete .scan ∉ log
  all : log.filterMap opened? = [.scan, .extract, .emit] ↔
    (∃ product, result = .ok (.generated product)) ∨
      result = .error .cancelled ∧ .phaseStarted .emit ∈ log

/-- The phases that are done when one of them is cut. -/
theorem cases_of_reached {done rest : List Phase} {phase : Phase}
    (h : reached trees = done ++ phase :: rest) :
    done = [] ∧ phase = .scan ∨ done = [.scan] ∧ phase = .extract ∨
      done = [.scan, .extract] ∧ phase = .emit := by
  have hprefix : reached trees <+: [.scan, .extract, .emit] := by
    unfold reached
    split <;> decide
  rw [h] at hprefix
  -- the list of all phases leaves room for two phases before another one
  rcases done with _ | ⟨first, _ | ⟨second, _ | ⟨third, done⟩⟩⟩
  · obtain ⟨hphase, -⟩ := List.cons_prefix_cons.mp hprefix
    exact Or.inl ⟨rfl, hphase⟩
  · obtain ⟨hfirst, htail⟩ := List.cons_prefix_cons.mp hprefix
    obtain ⟨hphase, -⟩ := List.cons_prefix_cons.mp htail
    exact Or.inr (Or.inl ⟨by rw [hfirst], hphase⟩)
  · obtain ⟨hfirst, htail⟩ := List.cons_prefix_cons.mp hprefix
    obtain ⟨hsecond, hlast⟩ := List.cons_prefix_cons.mp htail
    obtain ⟨hphase, -⟩ := List.cons_prefix_cons.mp hlast
    exact Or.inr (Or.inr ⟨by rw [hfirst, hsecond], hphase⟩)
  · have hlength := hprefix.length_le
    simp only [List.length_cons, List.length_append, List.length_nil] at hlength
    omega

/-- The phases that the driver has opened, and the ending, match the result.  By the cases of a log,
and where a phase is cut, by the phase. -/
theorem IsLog.matches (h : IsLog idle s trees result log) : Matches s result log := by
  -- without work, the log of each case is a list of a few events
  cases h with
  | switchedOff h =>
    exact ⟨rfl, iff_of_true rfl h, iff_of_false nofun (by simp), iff_of_false nofun (by simp)⟩
  | noCandidates h hsites =>
    refine ⟨rfl, ?_, ?_, ?_⟩
    · exact iff_of_false nofun (by simp [h])
    · exact iff_of_true rfl (Or.inl rfl)
    · exact iff_of_false nofun (by simp)
  | generated h hsites hrecords =>
    refine ⟨rfl, ?_, ?_, ?_⟩
    · exact iff_of_false nofun (by simp [h])
    · exact iff_of_false nofun (by simp)
    · exact iff_of_true rfl (Or.inl ⟨_, rfl⟩)
  | @cut done rest phase early late h hphases hwork =>
    obtain rfl : early = [] := (List.append_eq_nil_iff.mp hwork.symm).1
    rcases cases_of_reached hphases with ⟨rfl, rfl⟩ | ⟨rfl, rfl⟩ | ⟨rfl, rfl⟩
    · refine ⟨rfl, ?_, ?_, ?_⟩
      · exact iff_of_false nofun (by simp [h])
      · exact iff_of_true rfl (Or.inr ⟨rfl, by simp⟩)
      · exact iff_of_false nofun (by simp)
    · refine ⟨rfl, ?_, ?_, ?_⟩
      · exact iff_of_false nofun (by simp [h])
      · exact iff_of_false nofun (by simp [wholeEvents])
      · exact iff_of_false nofun (by simp [wholeEvents, idle])
    · refine ⟨rfl, ?_, ?_, ?_⟩
      · exact iff_of_false nofun (by simp [h])
      · exact iff_of_false nofun (by simp [wholeEvents])
      · exact iff_of_true rfl (Or.inr ⟨rfl, by simp⟩)
  | cutLate h hsites =>
    refine ⟨rfl, ?_, ?_, ?_⟩
    · exact iff_of_false nofun (by simp [h])
    · exact iff_of_false nofun (by simp [wholeEvents])
    · exact iff_of_true rfl (Or.inr ⟨rfl, by simp [wholeEvents]⟩)

/-- In a log with a scan that is closed, the scan has told all of its work.  Only a scan that is cut
leaves some of it out, and that one is not closed. -/
theorem IsLog.scanned (h : IsLog (workEvents s trees) s trees result log)
    (hclosed : .phaseComplete .scan ∈ log) :
    ∃ rest, log = .passStarted trees.length :: .phaseStarted .scan ::
      (trees.flatMap Tree.scanEvents ++ .phaseComplete .scan :: rest) := by
  have hwhole (rest : List Event) : wholeEvents (workEvents s trees) .scan ++ rest =
      .phaseStarted .scan :: (trees.flatMap Tree.scanEvents ++ .phaseComplete .scan :: rest) := by
    rw [wholeEvents, List.cons_append, List.append_assoc]
    rfl
  cases h with
  | switchedOff h => simp at hclosed
  | noCandidates h hsites => exact ⟨_, by rw [hwhole]⟩
  | generated h hsites hrecords =>
    exact ⟨_, by rw [List.flatMap_cons, List.append_assoc, hwhole]⟩
  | @cut done rest phase early late h hphases hwork =>
    rcases cases_of_reached hphases with ⟨rfl, rfl⟩ | ⟨rfl, rfl⟩ | ⟨rfl, rfl⟩
    · -- the scan itself is cut, and its work does not close it
      have hearly : .phaseComplete .scan ∉ early := by
        intro hmem
        have hinside : .phaseComplete .scan ∈ workEvents s trees .scan := by
          rw [hwork]
          exact List.mem_append_left late hmem
        exact Bool.false_ne_true (isWork_of_mem_workEvents s trees hinside)
      simp [hearly] at hclosed
    · exact ⟨_, by rw [List.flatMap_cons, List.append_assoc, List.append_assoc, hwhole]⟩
    · exact ⟨_, by rw [List.flatMap_cons, List.append_assoc, List.append_assoc, hwhole]⟩
  | cutLate h hsites =>
    exact ⟨_, by rw [List.flatMap_cons, List.append_assoc, hwhole]⟩

/-- **A pass tells what it does.**  Under any watch, a pass records the events of its log: where the
switch is off, that and the reason to skip; otherwise the start with the number of trees, then the
phases in their order, each of them opened and closed with its work inside, up to the one that is cut
or the last one, and then the one ending that belongs to the result.  Inside a scan that is closed
stand, for each tree in order, its call sites and one event with their number. -/
theorem generate_log (s : Settings) (trees : List Tree) (w : Watch) :
    ∃ result w' log, (generate true s trees).run w = (result, w') ∧
      w'.events = w.events ++ log ∧
      IsLog (workEvents s trees) s trees result log ∧
      IsLog idle s trees result (driverEvents log) ∧ Matches s result (driverEvents log) ∧
      (.phaseComplete .scan ∈ log → ∃ rest,
        log = .passStarted trees.length :: .phaseStarted .scan ::
          (trees.flatMap Tree.scanEvents ++ .phaseComplete .scan :: rest)) := by
  obtain ⟨result, ticks, hrun, hlog⟩ : ∃ result ticks,
      (generate true s trees).run w = (result, w.after ticks) ∧
      IsLog (workEvents s trees) s trees result (eventsOf ticks) := by
    rcases generate_run_cases true s trees w with hrun | ⟨before, after, hticks, hrun⟩
    · exact ⟨_, _, hrun, isLog_of_done s trees⟩
    · exact ⟨_, _, hrun, isLog_of_cut s trees hticks⟩
  have hdriver : IsLog idle s trees result (driverEvents (eventsOf ticks)) :=
    hlog.driver fun phase e he => isWork_of_mem_workEvents s trees he
  exact ⟨result, _, _, hrun, w.events_after ticks, hlog, hdriver, hdriver.matches, hlog.scanned⟩

end Generation

end RouteIndex
