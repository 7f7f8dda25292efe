/-
  Passes as straight lines.

  A pass looks at its watch only to be cancelled.  So what it does when nobody cancels it is a list
  of ticks that does not depend on the watch, and every other run is that list cut short.

  1. **Lines** — `Pass.Does p ticks a` says that `p` does the `ticks`, one after the other, and then
     gives `a`.  The passes of the library are put together with binds, and so are their lines
     (`Does.bind`).
  2. **Moments** — a moment in a pass is a point in its line.  `Watch.CancelsAfter w before` says
     that the flag of `w` goes up exactly when the ticks `before` have been done; a watch whose flag
     stays down has no such moment, every other watch has one (`Watch.cancelsAfter_of_cancelled`), and
     each moment is the one of some watch (`Watch.exists_cancelsAfter`).
  3. **Runs** — a pass that is never cancelled does its line to the end (`Does.run_of_live`).  A pass
     that is cancelled at a moment goes on to the first check behind it, and only if there is one does
     it fail there (**`Does.run_of_cancelsAfter`**).
-/

import RouteIndex.Pass

namespace RouteIndex

namespace Pass

/-! ## The monad of passes -/

/-- Two passes in a row: the second one goes on with the watch of the first, unless that was
cancelled. -/
theorem bind_apply {α β : Type} (p : Pass α) (f : α → Pass β) (w : Watch) :
    (p >>= f) w =
      match p w with
      | (.ok a, w) => f a w
      | (.error e, w) => (.error e, w) :=
  rfl

/-- If the first one gives a result, the second one decides. -/
theorem bind_of_ok {α β : Type} {p : Pass α} (f : α → Pass β) {w w' : Watch} {a : α}
    (h : p w = (.ok a, w')) : (p >>= f) w = f a w' := by
  rw [bind_apply, h]

/-- A pass that is cancelled is not gone on with. -/
theorem bind_of_error {α β : Type} {p : Pass α} (f : α → Pass β) {w w' : Watch} {e : Cancelled}
    (h : p w = (.error e, w')) : (p >>= f) w = (.error e, w') := by
  rw [bind_apply, h]

/-- A handler does nothing to a pass that gives a result. -/
theorem onCancel_of_ok {α : Type} {p : Pass α} (handler : Pass Unit) {w w' : Watch} {a : α}
    (h : p.run w = (.ok a, w')) : p.onCancel handler w = (.ok a, w') := by
  have h' : p w = (.ok a, w') := h
  rw [onCancel, h']

/-- A pass that is cancelled stays so; its handler can only add to the watch. -/
theorem onCancel_of_error {α : Type} {p : Pass α} (handler : Pass Unit) {w w' : Watch}
    {e : Cancelled} (h : p.run w = (.error e, w')) :
    p.onCancel handler w = (.error e, (handler.run w').2) := by
  have h' : p w = (.error e, w') := h
  rw [onCancel, h']
  rfl

instance : LawfulMonad Pass :=
  LawfulMonad.mk' Pass
    (fun p => funext fun w => by
      show (p >>= fun a => pure a) w = p w
      rw [bind_apply]
      rcases p w with ⟨_ | _, w'⟩ <;> rfl)
    (fun _ _ => rfl)
    (fun p f g => funext fun w => by
      rw [bind_apply, bind_apply, bind_apply]
      rcases p w with ⟨_ | a, w'⟩
      · rfl
      · rfl)

/-! ## Lines -/

/-- Does one tick. -/
def perform : Tick → Pass Unit
  | .event e => record e
  | .node => completeNode
  | .check => check

/-- Does the ticks in order. -/
def replay : List Tick → Pass Unit
  | [] => pure ()
  | t :: ts => do
    perform t
    replay ts

/-- Ticks are done in their order, so a line can be cut anywhere. -/
theorem replay_append (ts us : List Tick) :
    replay (ts ++ us) = (do replay ts; replay us) := by
  induction ts with
  | nil => rfl
  | cons t ts ih =>
    show (do perform t; replay (ts ++ us)) = (do (do perform t; replay ts); replay us)
    rw [ih, bind_assoc]

/-- The pass does the ticks in order and then gives `a`, unless it is cancelled. -/
def Does {α : Type} (p : Pass α) (ticks : List Tick) (a : α) : Prop :=
  p = do
    replay ticks
    return a

/-- A value is given without a tick. -/
theorem does_pure {α : Type} (a : α) : Does (pure a) [] a :=
  rfl

theorem does_perform (t : Tick) : Does (perform t) [t] () := by
  show perform t = (do (do perform t; pure ()); pure ())
  rw [bind_pure, bind_pure]

/-- An event is one tick, and so are the end of a node and a check.  The check is the only one that
can fail. -/
theorem does_record (e : Event) : Does (record e) [.event e] () :=
  does_perform (.event e)

theorem does_completeNode : Does completeNode [.node] () :=
  does_perform .node

theorem does_check : Does check [.check] () :=
  does_perform .check

/-- **The line of two passes, one after the other**, is their lines in a row.  All lines below are
put together by it. -/
theorem Does.bind {α β : Type} {p : Pass α} {f : α → Pass β} {ts us : List Tick} {a : α} {b : β}
    (hp : p.Does ts a) (hf : (f a).Does us b) : (p >>= f).Does (ts ++ us) b := by
  unfold Does at hp hf ⊢
  rw [hp, bind_assoc, replay_append, bind_assoc, pure_bind, hf]

/-- The line of a pass whose result is not used. -/
theorem Does.map {α β : Type} {p : Pass α} {ts : List Tick} {a : α} (hp : p.Does ts a) (g : α → β) :
    (do return g (← p)).Does ts (g a) := by
  have h : (p >>= fun a => pure (g a)).Does (ts ++ []) (g a) := hp.bind (does_pure (g a))
  rw [List.append_nil] at h
  exact h

/-- Events that are recorded in a row. -/
theorem does_recordAll (es : List Event) : (recordAll es).Does (es.map .event) () := by
  induction es with
  | nil => exact does_pure ()
  | cons e es ih => exact (does_record e).bind ih

end Pass

/-! ## Work -/

/-- Whether an event is one of the work inside a phase; all others come from around the phases. -/
def Event.isWork : Event → Bool
  | .callSiteMatched _ | .treeScanned .. | .verbMissing .. | .routeNotLiteral _
  | .recordsExtracted .. | .providerRendered .. => true
  | _ => false

/-- Whether every event among the ticks is one of the work inside a phase. -/
def IsWork (ts : List Tick) : Prop :=
  ∀ e, .event e ∈ ts → e.isWork = true

theorem isWork_nil : IsWork [] :=
  fun _ h => (List.not_mem_nil h).elim

/-- Work goes on with work. -/
theorem IsWork.append {ts us : List Tick} (hts : IsWork ts) (hus : IsWork us) :
    IsWork (ts ++ us) := by
  intro e he
  rcases List.mem_append.mp he with he | he
  · exact hts e he
  · exact hus e he

/-- One event is work or it is not. -/
theorem isWork_event {e : Event} (he : e.isWork = true) : IsWork [.event e] := by
  intro e' he'
  obtain rfl := Tick.event.inj (List.mem_singleton.mp he')
  exact he

/-! ## Moments -/

namespace Watch

/-- The watch once the ticks have been done. -/
def after (w : Watch) (ts : List Tick) : Watch :=
  ts.foldl tick w

/-- The flag goes up exactly when the ticks have been done; without any ticks, it has been up before
the pass. -/
structure CancelsAfter (w : Watch) (before : List Tick) : Prop where
  raised : (w.after before).cancelled = true
  live : ∀ early rest, before = early ++ rest → rest ≠ [] → (w.after early).cancelled = false

/-- Nobody ever cancels. -/
structure IsQuiet (w : Watch) : Prop where
  live : w.cancelled = false
  silent : ∀ history, w.alarm history = false

/-- Ticks can be done in two goes. -/
theorem after_append (w : Watch) (ts us : List Tick) : w.after (ts ++ us) = (w.after ts).after us :=
  List.foldl_append

theorem after_cons (w : Watch) (t : Tick) (ts : List Tick) :
    w.after (t :: ts) = (w.tick t).after ts :=
  rfl

/-- The watch remembers all its ticks, the last one first. -/
theorem history_after (w : Watch) (ts : List Tick) :
    (w.after ts).history = ts.reverse ++ w.history := by
  induction ts generalizing w with
  | nil => rfl
  | cons t ts ih =>
    rw [after_cons, ih, List.reverse_cons, List.append_assoc]
    rfl

/-- The events that have been recorded once the ticks have been done are those among the ticks, in
their order. -/
theorem events_after (w : Watch) (ts : List Tick) :
    (w.after ts).events = w.events ++ ts.filterMap Tick.event? := by
  rw [events, history_after, List.reverse_append, List.reverse_reverse, List.filterMap_append]
  rfl

/-- The flag is up where it has been up before, or where the outside has cancelled after one of the
ticks.  The outside sees the ticks up to there, and nothing else. -/
theorem cancelled_after_iff (w : Watch) (ts : List Tick) :
    (w.after ts).cancelled = true ↔ w.cancelled = true ∨
      ∃ early rest, ts = early ++ rest ∧ early ≠ [] ∧
        w.alarm (early.reverse ++ w.history) = true := by
  induction ts generalizing w with
  | nil =>
    refine ⟨Or.inl, ?_⟩
    rintro (h | ⟨early, rest, hsplit, hearly, -⟩)
    · exact h
    · exact absurd (List.append_eq_nil_iff.mp hsplit.symm).1 hearly
  | cons t ts ih =>
    rw [after_cons, ih]
    have htick : (w.tick t).cancelled = true ↔
        w.cancelled = true ∨ w.alarm (t :: w.history) = true := by
      show (w.cancelled || w.alarm (t :: w.history)) = true ↔ _
      rw [Bool.or_eq_true]
    -- The history grows at its front, so the first tick goes over to it from the end of the prefix.
    have hhistory (early : List Tick) :
        (t :: early).reverse ++ w.history = early.reverse ++ (t :: w.history) := by
      rw [List.reverse_cons, List.append_assoc]
      rfl
    rw [htick]
    constructor
    · rintro ((hw | halarm) | ⟨early, rest, rfl, hearly, halarm⟩)
      · exact Or.inl hw
      · exact Or.inr ⟨[t], ts, rfl, List.cons_ne_nil t [], halarm⟩
      · refine Or.inr ⟨t :: early, rest, rfl, List.cons_ne_nil t early, ?_⟩
        rw [hhistory]
        exact halarm
    · rintro (hw | ⟨early, rest, hsplit, hearly, halarm⟩)
      · exact Or.inl (Or.inl hw)
      · cases early with
        | nil => exact absurd rfl hearly
        | cons u early =>
          obtain ⟨rfl, hrest⟩ := List.cons.inj hsplit
          rw [hhistory] at halarm
          by_cases hnil : early = []
          · rw [hnil] at halarm
            exact Or.inl (Or.inr halarm)
          · exact Or.inr ⟨early, rest, hrest, hnil, halarm⟩

/-- The flag never falls again, so a cancellation is not missed by looking late. -/
theorem cancelled_after {w : Watch} (h : w.cancelled = true) (ts : List Tick) :
    (w.after ts).cancelled = true :=
  (cancelled_after_iff w ts).mpr (Or.inl h)

/-- As long as the flag is down, it has been down all the time before. -/
theorem live_of_live_after {w : Watch} {ts us : List Tick}
    (h : (w.after (ts ++ us)).cancelled = false) : (w.after ts).cancelled = false := by
  rw [← Bool.not_eq_true] at h ⊢
  intro hts
  rw [after_append] at h
  exact h (cancelled_after hts us)

/-- If nobody ever cancels, the flag is down wherever one looks. -/
theorem IsQuiet.live_after {w : Watch} (h : w.IsQuiet) (ts : List Tick) :
    (w.after ts).cancelled = false := by
  rw [← Bool.not_eq_true, cancelled_after_iff, h.live]
  rintro (hlive | ⟨early, -, -, -, halarm⟩)
  · exact Bool.false_ne_true hlive
  · rw [h.silent] at halarm
    exact Bool.false_ne_true halarm

/-- **Every moment can be chosen**: the outside may count the ticks.  What holds for all watches
therefore holds for all moments. -/
theorem exists_cancelsAfter (before : List Tick) : ∃ w : Watch, w.CancelsAfter before := by
  -- An alarm that counts: it rings when as many ticks as those before have passed.
  refine ⟨{ cancelled := before.isEmpty, alarm := fun history => history.length = before.length },
    ?_, ?_⟩
  · rw [cancelled_after_iff]
    cases before with
    | nil => exact Or.inl rfl
    | cons t before =>
      refine Or.inr ⟨t :: before, [], (List.append_nil _).symm, List.cons_ne_nil t before, ?_⟩
      simp
  · intro early rest hsplit hrest
    rw [← Bool.not_eq_true, cancelled_after_iff]
    have hlength : early.length < before.length := by
      have hpos := List.length_pos_iff.mpr hrest
      rw [hsplit, List.length_append]
      omega
    rintro (hempty | ⟨first, others, hfirst, -, halarm⟩)
    · have hnil := List.isEmpty_iff.mp hempty
      rw [hnil] at hlength
      exact absurd hlength (Nat.not_lt_zero _)
    · rw [decide_eq_true_eq, List.append_nil, List.length_reverse] at halarm
      rw [hfirst, List.length_append] at hlength
      omega

/-- A flag that is up from the start has no moment but this one. -/
theorem cancelsAfter_nil {w : Watch} (h : w.cancelled = true) : w.CancelsAfter [] where
  raised := h
  live _ _ hsplit hrest := absurd (List.append_eq_nil_iff.mp hsplit.symm).2 hrest

/-- A flag that is up in the end went up at some moment, which is the first at which it is seen up. -/
theorem cancelsAfter_of_cancelled {w : Watch} {ts : List Tick}
    (h : (w.after ts).cancelled = true) :
    ∃ before after, ts = before ++ after ∧ w.CancelsAfter before := by
  -- along the ticks, up to the first one after which the flag is up
  induction ts generalizing w with
  | nil => exact ⟨[], [], rfl, cancelsAfter_nil h⟩
  | cons t ts ih =>
    by_cases hw : w.cancelled = true
    · exact ⟨[], t :: ts, rfl, cancelsAfter_nil hw⟩
    · obtain ⟨before, after, hsplit, hmoment⟩ := ih h
      refine ⟨t :: before, after, congrArg _ hsplit, hmoment.raised, ?_⟩
      intro early rest hearly hrest
      cases early with
      | nil => exact Bool.eq_false_iff.mpr hw
      | cons u early =>
        obtain ⟨rfl, htail⟩ := List.cons.inj hearly
        exact hmoment.live early rest htail hrest

end Watch

/-! ## Runs -/

namespace Pass

/-- As long as the flag is down, every tick is done. -/
theorem perform_of_live {w : Watch} (h : w.cancelled = false) (t : Tick) :
    perform t w = (.ok (), w.tick t) := by
  cases t with
  | event e => rfl
  | node => rfl
  | check =>
    show (if w.cancelled then _ else _) = _
    rw [h]
    rfl

/-- Ticks that are no checks are done in any case. -/
theorem perform_of_ne_check {t : Tick} (h : t ≠ .check) (w : Watch) :
    perform t w = (.ok (), w.tick t) := by
  cases t with
  | event e => rfl
  | node => rfl
  | check => exact absurd rfl h

/-- Ticks are done as long as the flag is down when the last of them begins.  It may go up with the
last one, which is too late for these ticks. -/
theorem replay_of_live : ∀ {w : Watch} {ts : List Tick},
    (∀ early rest, ts = early ++ rest → rest ≠ [] → (w.after early).cancelled = false) →
    replay ts w = (.ok (), w.after ts) := by
  intro w ts
  induction ts generalizing w with
  | nil => exact fun _ => rfl
  | cons t ts ih =>
    intro h
    have hw : w.cancelled = false := h [] (t :: ts) rfl (List.cons_ne_nil t ts)
    show (perform t >>= fun _ => replay ts) w = _
    rw [bind_of_ok _ (perform_of_live hw t)]
    exact ih fun early rest hsplit hrest => h (t :: early) rest (congrArg _ hsplit) hrest

/-- Once the flag is up, the ticks are done up to the first check, which fails.  Work that does not
look at the flag is done in any case. -/
theorem replay_of_cancelled : ∀ {w : Watch}, w.cancelled = true → ∀ (ts : List Tick),
    replay ts w =
      if .check ∈ ts then (.error .cancelled, w.after (ts.takeWhile (· ≠ .check)))
      else (.ok (), w.after ts) := by
  intro w hw ts
  induction ts generalizing w with
  | nil => rfl
  | cons t ts ih =>
    show (perform t >>= fun _ => replay ts) w = _
    -- a check is the only tick that looks at the flag
    by_cases ht : t = .check
    · have hcheck : perform t w = (.error .cancelled, w) := by
        rw [ht]
        show (if w.cancelled then _ else _) = _
        rw [hw]
        rfl
      rw [bind_of_error _ hcheck, ht, if_pos List.mem_cons_self]
      rfl
    · have htick : (w.tick t).cancelled = true := Watch.cancelled_after hw [t]
      have hmem : Tick.check ∈ t :: ts ↔ Tick.check ∈ ts := by
        rw [List.mem_cons]
        exact ⟨fun h => h.resolve_left fun h => ht h.symm, Or.inr⟩
      have htake : (t :: ts).takeWhile (· ≠ .check) = t :: ts.takeWhile (· ≠ .check) :=
        List.takeWhile_cons_of_pos (decide_eq_true ht)
      rw [bind_of_ok _ (perform_of_ne_check ht w), ih htick, htake]
      simp only [hmem]
      rfl

/-- A pass without checks cannot be cancelled. -/
theorem replay_of_not_mem_check {ts : List Tick} (h : .check ∉ ts) (w : Watch) :
    replay ts w = (.ok (), w.after ts) := by
  induction ts generalizing w with
  | nil => rfl
  | cons t ts ih =>
    have ht : t ≠ .check := fun ht => h (ht ▸ List.mem_cons_self)
    show (perform t >>= fun _ => replay ts) w = _
    rw [bind_of_ok _ (perform_of_ne_check ht w)]
    exact ih (fun hmem => h (List.mem_cons_of_mem t hmem)) (w.tick t)

variable {α : Type} {p : Pass α} {ts : List Tick} {a : α} {w : Watch}

/-- What the ticks of a line come to, the pass comes to, with its result. -/
theorem Does.run_of_replay (hp : p.Does ts a) {w' : Watch} (h : replay ts w = (.ok (), w')) :
    p.run w = (.ok a, w') := by
  show p w = _
  rw [hp, bind_of_ok _ h]
  rfl

/-- A pass that is not cancelled does its line to the end and gives its result. -/
theorem Does.run_of_live (hp : p.Does ts a) (hw : (w.after ts).cancelled = false) :
    p.run w = (.ok a, w.after ts) := by
  refine hp.run_of_replay (replay_of_live fun early rest hsplit _ => ?_)
  rw [hsplit] at hw
  exact Watch.live_of_live_after hw

/-- A moment at the end of the line or behind it does not concern the pass. -/
theorem Does.run_of_cancelsAfter_append (hp : p.Does ts a) {later : List Tick}
    (hw : w.CancelsAfter (ts ++ later)) : p.run w = (.ok a, w.after ts) := by
  refine hp.run_of_replay (replay_of_live fun early rest hsplit hrest => ?_)
  refine hw.live early (rest ++ later) ?_ fun h => hrest (List.append_eq_nil_iff.mp h).1
  rw [hsplit, List.append_assoc]

/-- A pass without checks gives its result under every watch. -/
theorem Does.run_of_not_mem_check (hp : p.Does ts a) (h : .check ∉ ts) :
    p.run w = (.ok a, w.after ts) :=
  hp.run_of_replay (replay_of_not_mem_check h w)

/-- **A pass that is cancelled at a moment fails at the first check behind it**, and if there is
none it gives its result.  Between the moment and the check the line is done as it stands. -/
theorem Does.run_of_cancelsAfter {before after : List Tick} (hp : p.Does (before ++ after) a)
    (hw : w.CancelsAfter before) :
    p.run w =
      if .check ∈ after then (.error .cancelled, w.after (before ++ after.takeWhile (· ≠ .check)))
      else (.ok a, w.after (before ++ after)) := by
  have hbefore : replay before w = (.ok (), w.after before) := replay_of_live hw.live
  have hafter := replay_of_cancelled hw.raised after
  have hline : replay (before ++ after) w = replay after (w.after before) := by
    rw [replay_append, bind_of_ok _ hbefore]
  show p w = _
  by_cases hcheck : Tick.check ∈ after
  · rw [if_pos hcheck] at hafter ⊢
    rw [hp, bind_of_error _ (hline.trans hafter), Watch.after_append]
  · rw [if_neg hcheck] at hafter ⊢
    rw [hp, bind_of_ok _ (hline.trans hafter), Watch.after_append]
    rfl

/-- A pass that gives a result gives that of its line.  The watch can keep a result back, but it
cannot change it. -/
theorem Does.eq_of_run (hp : p.Does ts a) {b : α} (h : (p.run w).1 = .ok b) : b = a := by
  cases hreplay : replay ts w with
  | mk result w' =>
    cases result with
    | ok u =>
      rw [hp.run_of_replay hreplay] at h
      exact (Except.ok.inj h).symm
    | error e =>
      have hrun : p.run w = (.error e, w') := by
        show p w = _
        rw [hp, bind_of_error _ hreplay]
      rw [hrun] at h
      nomatch h

/-- A pass that was cancelled before it began fails, unless it has no check. -/
theorem Does.run_of_cancelled (hp : p.Does ts a) (hw : w.cancelled = true) :
    (p.run w).1 = if .check ∈ ts then .error .cancelled else .ok a := by
  have hline : p.Does ([] ++ ts) a := hp
  rw [hline.run_of_cancelsAfter (Watch.cancelsAfter_nil hw)]
  split
  · rfl
  · rfl

end Pass

end RouteIndex
