/-
  Cancellation of a pass, at any moment.

  A pass that nobody cancels does the same ticks under every watch, and always has an outcome.  The
  flag may go up behind any of these ticks, the recording of an event included; the pass then goes on
  to the first check behind that moment.

  1. If there is such a check, the pass fails there and gives nothing.  Its ticks are the ones it
     would have done, cut in front of the check, and one more event if progress is wanted.
  2. If there is none, the pass gives what it would have given, and does all of its ticks.

  The checks are inside the phases, except for one behind the phase that renders: so a phase that was
  cancelled is not closed, and a unit is only given out if the flag was down at that last check.

  **`generate_cancelled_at_any_moment`** says all of this.
-/

import RouteIndex.Proofs.Generation.Line

namespace RouteIndex.Generation

open Syntax Pass

variable (progress : Bool) (s : Settings) (trees : List Tree)

/-- The ticks of a whole pass. -/
def ticksOf : List Tick :=
  phasesTicks progress s trees ++ endingTicks progress (outcomeOf s trees)

/-! ## From the phases to the pass -/

variable {progress s trees}
variable {w w' : Watch}

theorem generate_of_ok {outcome : Outcome}
    (h : (phases progress s trees).run w = (.ok outcome, w')) :
    (generate progress s trees).run w = (.ok outcome, w'.after (endingTicks progress outcome)) := by
  have hconclude : conclude progress outcome w' =
      (.ok (), w'.after (endingTicks progress outcome)) :=
    (conclude_does progress outcome).run_of_not_mem_check (check_not_mem_endingTicks progress outcome)
  show (_ >>= fun outcome => conclude progress outcome >>= fun _ => pure outcome : Pass Outcome) w = _
  rw [bind_of_ok _ (onCancel_of_ok _ h), bind_of_ok _ hconclude]
  rfl

theorem generate_of_error {e : Cancelled} (h : (phases progress s trees).run w = (.error e, w')) :
    (generate progress s trees).run w = (.error e, w'.after (note progress .passCancelled)) := by
  have hannounce : (announce progress .passCancelled).run w' =
      (.ok (), w'.after (note progress .passCancelled)) :=
    (announce_does progress _).run_of_not_mem_check (check_not_mem_note progress _)
  show (_ >>= fun outcome => conclude progress outcome >>= fun _ => pure outcome : Pass Outcome) w = _
  rw [bind_of_error _ (onCancel_of_error _ h), hannounce]

/-! ## Runs of a pass -/

/-- A pass that is never cancelled has its outcome. -/
theorem generate_of_live (hw : (w.after (ticksOf progress s trees)).cancelled = false) :
    (generate progress s trees).run w =
      (.ok (outcomeOf s trees), w.after (ticksOf progress s trees)) := by
  have hphases := (phases_does progress s trees).run_of_live (Watch.live_of_live_after hw)
  rw [generate_of_ok hphases, ticksOf, Watch.after_append]

/-- What stands behind the first check does not matter for the ticks in front of it. -/
theorem takeWhile_append_of_mem_check {ts : List Tick} (h : .check ∈ ts) (us : List Tick) :
    (ts ++ us).takeWhile (· ≠ .check) = ts.takeWhile (· ≠ .check) := by
  induction ts with
  | nil => exact (List.not_mem_nil h).elim
  | cons t ts ih =>
    rw [List.cons_append, List.takeWhile_cons, List.takeWhile_cons]
    by_cases ht : t = .check
    · rw [if_neg (by simp [ht]), if_neg (by simp [ht])]
    · have hts : Tick.check ∈ ts := (List.mem_cons.mp h).resolve_left fun h => ht h.symm
      rw [ih hts]

/-- A pass that is cancelled at a moment fails at the first check behind it, if there is one.  Of
the rest of its line it then does nothing but announce that it was cancelled. -/
theorem generate_of_cancelsAfter {before after : List Tick}
    (hticks : ticksOf progress s trees = before ++ after) (hw : w.CancelsAfter before) :
    (generate progress s trees).run w =
      if .check ∈ after then
        (.error .cancelled,
          w.after (before ++ after.takeWhile (· ≠ .check) ++ note progress .passCancelled))
      else (.ok (outcomeOf s trees), w.after (ticksOf progress s trees)) := by
  have hending := check_not_mem_endingTicks progress (outcomeOf s trees)
  rcases List.append_eq_append_iff.mp hticks with ⟨late, hbefore, hlate⟩ | ⟨early, hphases, hafter⟩
  · -- the moment lies behind the phases, where no check is left
    have hcheck : Tick.check ∉ after := by
      intro h
      rw [hlate] at hending
      exact hending (List.mem_append_right late h)
    rw [hbefore] at hw
    rw [if_neg hcheck, generate_of_ok ((phases_does progress s trees).run_of_cancelsAfter_append hw),
      ticksOf, Watch.after_append]
  · have hdoes := phases_does progress s trees
    rw [hphases] at hdoes
    have hrun := hdoes.run_of_cancelsAfter hw
    by_cases hcheck : Tick.check ∈ early
    · have hmem : Tick.check ∈ after := by
        rw [hafter]
        exact List.mem_append_left _ hcheck
      rw [if_pos hcheck] at hrun
      rw [if_pos hmem, generate_of_error hrun, hafter, takeWhile_append_of_mem_check hcheck,
        Watch.after_append w (before ++ _)]
    · have hmem : Tick.check ∉ after := by
        intro h
        rw [hafter] at h
        rcases List.mem_append.mp h with h | h
        · exact hcheck h
        · exact hending h
      rw [if_neg hcheck] at hrun
      rw [if_neg hmem, generate_of_ok hrun, ← hphases, ticksOf, Watch.after_append]

/-! ## Places of checks -/

/-- A check is inside a phase, or it is the last one and stands behind the phase that renders. -/
theorem within_or_last {before after : List Tick}
    (hticks : ticksOf progress s trees = before ++ .check :: after) :
    (progress = true → ∃ phase, Within phase before after) ∨
      EndsEmit progress before ∧ .check ∉ after := by
  obtain ⟨inside, last, hphases, hguarded, hlast⟩ := phasesTicks_eq_append progress s trees
  have hending := check_not_mem_endingTicks progress (outcomeOf s trees)
  rw [ticksOf, hphases, List.append_assoc] at hticks
  -- The check stands in a phase, or it is the one between the phases and the ending.
  rcases split_append hticks with ⟨rest, hinside, hafter⟩ | ⟨rest, hbefore, hrest⟩
  · left
    intro hprogress
    rw [hafter]
    exact hguarded hprogress _ before rest hinside
  · right
    -- Behind the phases there is at most that one check, and none in the ending.
    rcases hlast with ⟨rfl, -⟩ | ⟨rfl, hemit⟩
    · refine absurd ?_ hending
      rw [List.nil_append] at hrest
      rw [hrest]
      exact List.mem_append_right rest List.mem_cons_self
    · cases rest with
      | nil =>
        rw [List.append_nil] at hbefore
        rw [hbefore, ← (List.cons.inj hrest).2]
        exact ⟨hemit, hending⟩
      | cons t rest =>
        refine absurd ?_ hending
        have htail : endingTicks progress (outcomeOf s trees) = rest ++ .check :: after :=
          (List.cons.inj hrest).2
        rw [htail]
        exact List.mem_append_right rest List.mem_cons_self

/-- In front of a unit stands the last check. -/
theorem last_check_of_generated {product : Product} (h : outcomeOf s trees = .generated product) :
    ∃ before after, ticksOf progress s trees = before ++ .check :: after ∧
      EndsEmit progress before ∧ .check ∉ after := by
  obtain ⟨inside, last, hphases, -, hlast⟩ := phasesTicks_eq_append progress s trees
  rcases hlast with ⟨-, hskipped⟩ | ⟨rfl, hemit⟩
  · rw [h] at hskipped
    nomatch hskipped
  · refine ⟨inside, endingTicks progress (outcomeOf s trees), ?_, hemit,
      check_not_mem_endingTicks progress (outcomeOf s trees)⟩
    rw [ticksOf, hphases, List.append_assoc]
    rfl

/-- A unit is given out only if the flag was down at the last check, for that check stands behind
everything that could still fail. -/
theorem live_at_last_check {product : Product} {before after : List Tick}
    (h : ((generate progress s trees).run w).1 = .ok (.generated product))
    (hticks : ticksOf progress s trees = before ++ .check :: after) :
    (w.after before).cancelled = false := by
  rw [← Bool.not_eq_true]
  intro hraised
  -- the flag would have gone up in front of the check, where the pass then fails
  obtain ⟨early, late, hsplit, hmoment⟩ := Watch.cancelsAfter_of_cancelled hraised
  have hall : ticksOf progress s trees = early ++ (late ++ .check :: after) := by
    rw [hticks, hsplit, List.append_assoc]
  have hmem : Tick.check ∈ late ++ .check :: after := List.mem_append_right late List.mem_cons_self
  rw [generate_of_cancelsAfter hall hmoment, if_pos hmem] at h
  nomatch h

/-- A pass gives the outcome of its line or nothing. -/
theorem generate_eq_outcomeOf {outcome : Outcome}
    (h : ((generate progress s trees).run w).1 = .ok outcome) : outcome = outcomeOf s trees := by
  by_cases hw : (w.after (ticksOf progress s trees)).cancelled = true
  · obtain ⟨before, after, hsplit, hmoment⟩ := Watch.cancelsAfter_of_cancelled hw
    rw [generate_of_cancelsAfter hsplit hmoment] at h
    split at h
    · nomatch h
    · exact (Except.ok.inj h).symm
  · rw [generate_of_live (Bool.eq_false_iff.mpr hw)] at h
    exact (Except.ok.inj h).symm

/-! ## The whole of it -/

/-- **A pass can be cancelled at any moment.**  The outcome and the ticks belong to the trees and the
settings alone.  A pass under a watch whose flag stays down gives this outcome; where the flag goes up
at some moment, the pass fails at the next check with nothing but the ticks in front of it and the
event of the cancellation, or gives the same outcome if there is no such check.  Each check is inside
a phase, which then stays unclosed, or it is the last one behind the phase that renders; and a unit is
only ever given out whole, with the flag down at that check. -/
theorem generate_cancelled_at_any_moment (progress : Bool) (s : Settings) (trees : List Tree) :
    ∃ (outcome : Outcome) (ticks : List Tick),
      (∀ w : Watch, (w.after ticks).cancelled = false →
        (generate progress s trees).run w = (.ok outcome, w.after ticks)) ∧
      (∀ (w : Watch) (before after : List Tick), ticks = before ++ after → w.CancelsAfter before →
        (generate progress s trees).run w =
          if .check ∈ after then
            (.error .cancelled,
              w.after (before ++ after.takeWhile (· ≠ .check) ++ note progress .passCancelled))
          else (.ok outcome, w.after ticks)) ∧
      (∀ before after, ticks = before ++ .check :: after →
        (progress = true → ∃ phase, Within phase before after) ∨
          EndsEmit progress before ∧ .check ∉ after) ∧
      (∀ (w : Watch) (product : Product),
        ((generate progress s trees).run w).1 = .ok (.generated product) →
        outcome = .generated product ∧ ∃ before after, ticks = before ++ .check :: after ∧
          EndsEmit progress before ∧ .check ∉ after ∧ (w.after before).cancelled = false) := by
  refine ⟨outcomeOf s trees, ticksOf progress s trees, fun w hw => generate_of_live hw,
    fun w before after hticks hw => generate_of_cancelsAfter hticks hw,
    fun before after hticks => within_or_last hticks, fun w product h => ?_⟩
  have houtcome := (generate_eq_outcomeOf h).symm
  obtain ⟨before, after, hticks, hemit, hcheck⟩ := last_check_of_generated houtcome
  exact ⟨houtcome, before, after, hticks, hemit, hcheck, live_at_last_check h hticks⟩

end RouteIndex.Generation
