/-
  Commands over a state.

  Over files that are a state, a command is a function of a transcript and a state.  `Runs` says what
  it comes to, and there is one law for each of the parts that commands are made of.  A stage that
  reads its input tells nothing and leaves the state alone: it `Reads`, and it fails with the first of
  its faults or has none.  The faults of two stages in a row are those of the first and then those of
  the second (`Reads.bind`).
-/

import RouteIndex.Command

namespace RouteIndex.Command

variable {σ α β : Type}

/-! ## Runs -/

/-- What a command comes to that is begun with a transcript in a state. -/
def Runs (x : Run (StateM σ) α) (t : Transcript) (s : σ) (result : Except Failure α)
    (t' : Transcript) (s' : σ) : Prop :=
  (x.run.run t).run s = ((result, t'), s')

variable {x : Run (StateM σ) α} {f : α → Run (StateM σ) β} {t t' t'' : Transcript} {s s' s'' : σ}

/-- Two parts in a row: the second one goes on with the transcript and the state that the first one
leaves. -/
theorem Runs.bind {a : α} {result : Except Failure β} (hx : Runs x t s (.ok a) t' s')
    (hf : Runs (f a) t' s' result t'' s'') : Runs (x >>= f) t s result t'' s'' := by
  rw [Runs, ExceptT.run_bind, StateT.run_bind, StateT.run_bind, hx]
  exact hf

/-- A part that fails ends the command; what comes behind it is not begun, and nothing is taken
back. -/
theorem Runs.bind_error {e : Failure} (hx : Runs x t s (.error e) t' s') :
    Runs (x >>= f) t s (.error e) t' s' := by
  rw [Runs, ExceptT.run_bind, StateT.run_bind, StateT.run_bind, hx]
  rfl

/-- A value costs nothing and leaves everything as it is. -/
theorem runs_pure (a : α) : Runs (pure a) t s (.ok a) t s :=
  rfl

/-- A failure leaves the transcript and the state as they were when it was met. -/
theorem runs_throw (e : Failure) : Runs (throw e : Run (StateM σ) α) t s (.error e) t s :=
  rfl

/-- Logging adds one event at the end of the transcript and does not touch the files. -/
theorem runs_log (e : Event) :
    Runs (log e) t s (.ok ()) { t with events := t.events ++ [e] } s :=
  rfl

/-- Printing goes behind the output so far. -/
theorem runs_print (text : String) :
    Runs (print text) t s (.ok ()) { t with output := t.output ++ text } s :=
  rfl

/-- Work on the files happens inside a command as it does outside; it adds nothing to the
transcript. -/
theorem runs_lift {work : StateM σ α} {a : α} (h : work.run s = (a, s')) :
    Runs (work : Run (StateM σ) α) t s (.ok a) t s' := by
  show ((fun a => ((.ok a, t) : Except Failure α × Transcript)) <$> work).run s = _
  rw [StateT.run_map, h]
  rfl

/-- A call to the files that may be refused: its state is kept either way, and a refusal becomes the
failure that names what was tried. -/
theorem runs_attempt (failure : Files.Error → Failure) {work : StateM σ (Except Files.Error α)}
    {result : Except Files.Error α} (h : work.run s = (result, s')) :
    Runs (attempt failure work) t s (result.mapError failure) t s' := by
  cases result with
  | ok a => exact (runs_lift h).bind (runs_pure a)
  | error e => exact (runs_lift h).bind (runs_throw (failure e))

/-- A pass that is not cancelled leaves its events in the transcript, and the files alone. -/
theorem runs_runPass {p : Pass α} {a : α} {w : Watch} (h : p.run .live = (.ok a, w)) :
    Runs (runPass p) t s (.ok a) { t with events := t.events ++ w.events } s := by
  rw [runPass, h]
  rfl

/-! ## Outcomes -/

/-- What has been printed is kept, however the command ends. -/
theorem outcome_output (result : Except Failure Unit) (t : Transcript) :
    (outcome result t).output = t.output := by
  cases result <;> rfl

theorem outcome_events (result : Except Failure Unit) (t : Transcript) :
    (outcome result t).events = t.events := by
  cases result <;> rfl

/-! ## Stages that only read -/

/-- The first of the faults, or the value if there are none. -/
def settle : List Failure → α → Except Failure α
  | [], a => .ok a
  | fault :: _, _ => .error fault

/-- A stage that tells nothing and changes nothing; it fails with the first of its faults, or else
gives a value. -/
def Reads (x : Run (StateM σ) α) (s : σ) (faults : List Failure) (a : α) : Prop :=
  ∀ t, Runs x t s (settle faults a) t s

/-- A value is read without faults. -/
theorem reads_pure (s : σ) (a : α) : Reads (pure a) s [] a :=
  fun _ => runs_pure a

/-- **The faults of two stages in a row** are those of the first and then those of the second.  The
second one need not be looked at if the first one has faults, for then it is not begun. -/
theorem Reads.bind {faults more : List Failure} {a : α} {b : β} (hx : Reads x s faults a)
    (hf : faults = [] → Reads (f a) s more b) : Reads (x >>= f) s (faults ++ more) b := by
  intro t
  cases faults with
  | nil => exact (hx t).bind (hf rfl t)
  | cons fault rest => exact (hx t).bind_error

end RouteIndex.Command
