import Handheld.Proofs.Console.Instrumentation
import Handheld.Proofs.Inspection.Exchange
import Mathlib.Data.ENat.Lattice

/-!
# Ticks in batches

Ticks are run one by one, a number of them at once, or by the iterations of a session, and each of
these loops looks for a stop of the debugger in its own place. However a number of ticks is divided
among them, the console becomes what single ticks make of it, and an iteration returns how many of
its ticks were not held: as many as it may run, or as there are before the first stop
(`Batch.divided_ticks_agree`).
-/

namespace Handheld

namespace Console

/-- A console that has stopped stays as it is, however many ticks are asked for. -/
theorem iterate_tick_of_stopped {console : Console} (stopped : console.isStopped = true)
    (count : Nat) : tick^[count] console = console :=
  Function.iterate_fixed (tick_of_stopped stopped) count

/-! ## The first stop -/

/-- How many ticks there are before the debugger holds execution. -/
noncomputable def ticksToStop (console : Console) : ℕ∞ :=
  ⨅ (count : ℕ) (_ : (tick^[count] console).isStopped = true), (count : ℕ∞)

/-- The ticks to the stop are the fewest after which the console has stopped. -/
theorem ticksToStop_le {console : Console} {count : Nat}
    (stops : (tick^[count] console).isStopped = true) : console.ticksToStop ≤ count :=
  iInf₂_le count stops

/-- A stopped console is zero ticks from its stop. -/
theorem ticksToStop_of_stopped {console : Console} (stopped : console.isStopped = true) :
    console.ticksToStop = 0 := by
  have now : console.ticksToStop ≤ (0 : ℕ) := ticksToStop_le stopped
  exact le_antisymm now zero_le

/-- A console that is going is one tick further from its stop than after the tick. If it never
stops, both distances are infinite. -/
theorem ticksToStop_of_going {console : Console} (going : console.isStopped = false) :
    console.ticksToStop = console.tick.ticksToStop + 1 := by
  apply le_antisymm
  · rw [← tsub_le_iff_right]
    apply le_iInf₂
    intro count stops
    rw [tsub_le_iff_right, ← Nat.cast_succ]
    exact ticksToStop_le stops
  · apply le_iInf₂
    intro count stops
    -- A console that goes on does not stop after no ticks at all.
    cases count with
    | zero =>
        rw [Function.iterate_zero, id_eq, going] at stops
        cases stops
    | succ count =>
        rw [Nat.cast_succ]
        gcongr
        exact ticksToStop_le stops

/-- How many of a number of steps the debugger does not hold. -/
def goingSteps (console : Console) (count : Nat) : Nat :=
  (console.steps count).1.countP (· ≠ .stopped)

/-- Of the ticks that are asked for, the first one is run if the console is going. -/
theorem goingSteps_of_going {console : Console} (going : console.isStopped = false)
    (count : Nat) : console.goingSteps (count + 1) = console.tick.goingSteps count + 1 :=
  List.countP_cons_of_pos (decide_eq_true (step_ne_stopped going))

/-- If the console has stopped, none of the ticks that are asked for is run. By induction on their
number. -/
theorem goingSteps_of_stopped {console : Console} (stopped : console.isStopped = true)
    (count : Nat) : console.goingSteps count = 0 := by
  induction count with
  | zero => rfl
  | succ count ih =>
      have held : console.step.1 = .stopped := (step_eq_stopped_iff console).mpr stopped
      unfold goingSteps steps
      rw [held, tick_of_stopped stopped, List.countP_cons_of_neg (by decide)]
      exact ih

/-- Steps go on up to the first stop, so that of the steps that are asked for as many are run as
there are before it. -/
theorem goingSteps_eq_min (console : Console) (count : Nat) :
    (console.goingSteps count : ℕ∞) = min (count : ℕ∞) console.ticksToStop := by
  induction count generalizing console with
  | zero => exact (min_eq_left zero_le).symm
  | succ count ih =>
      cases stopped : console.isStopped with
      | true =>
          rw [goingSteps_of_stopped stopped, ticksToStop_of_stopped stopped]
          exact (min_eq_right zero_le).symm
      | false =>
          rw [goingSteps_of_going stopped, ticksToStop_of_going stopped, Nat.cast_succ,
            Nat.cast_succ, ih, min_add_add_right]

end Console

/-- The ticks of an iteration are single ticks, of which it counts those that are not held. By
induction on those that are left. -/
theorem Session.runTicks_eq (console : Console) (limit ticks : Nat) :
    runTicks console limit ticks =
      (ticks + console.goingSteps limit, Console.tick^[limit] console) := by
  induction limit generalizing console ticks with
  | zero => rfl
  | succ limit ih =>
      rw [runTicks]
      split
      · rename_i stopped
        rw [Console.goingSteps_of_stopped stopped, Console.iterate_tick_of_stopped stopped]
        rfl
      · rename_i awake
        have going : console.isStopped = false := Bool.eq_false_iff.mpr awake
        rw [ih, Console.goingSteps_of_going going, Function.iterate_succ_apply, Nat.add_assoc,
          Nat.add_comm 1]

/-! ## Batches -/

/-- An inspection with an empty queue around a session that owns a console and is not paused. -/
def Inspection.around (shared : Inspection) (config : SessionConfig) (console : Console) :
    Inspection :=
  { shared with queue := [], session? := some ⟨console, config, false⟩ }

def Inspection.console? (inspection : Inspection) : Option Console :=
  inspection.session?.map (·.console)

/-- An iteration of a session that nobody has sent anything to runs its ticks, and returns how many
were run before the console stopped. -/
theorem Inspection.iterate_around (shared : Inspection) (config : SessionConfig)
    (console : Console) :
    (shared.around config console).iterate =
      (console.goingSteps config.ticksPerIteration,
        shared.around config (Console.tick^[config.ticksPerIteration] console)) := by
  have run : (Session.mk console config false).run =
      (console.goingSteps config.ticksPerIteration,
        ⟨Console.tick^[config.ticksPerIteration] console, config, false⟩) := by
    rw [Exchange.run_of_going rfl, Session.runTicks_eq, Nat.zero_add]
  show ((Session.mk console config false).run.1,
    { shared with queue := [], session? := some (Session.mk console config false).run.2 }) = _
  rw [run]
  rfl

/-- A call that runs ticks. -/
inductive Batch where
  | step
  | tick
  | tickMultiple (count : Nat)
  /-- An iteration of a session that is not paused, with no command to apply. -/
  | iterate (shared : Inspection) (config : SessionConfig)

namespace Batch

def ticks : Batch → Nat
  | step | tick => 1
  | tickMultiple count => count
  | iterate _ config => config.ticksPerIteration

def apply : Batch → Console → Console
  | step, console => console.step.2
  | tick, console => console.tick
  | tickMultiple count, console => console.tickMultiple count
  | iterate shared config, console =>
    (shared.around config console).iterate.2.console?.getD console

def run (console : Console) (batches : List Batch) : Console :=
  batches.foldl (fun console batch => batch.apply console) console

/-- Each way to ask for ticks is so many single ones: a step, a tick, a number of ticks, or an
iteration with its own number. -/
theorem apply_eq_iterate (batch : Batch) (console : Console) :
    batch.apply console = Console.tick^[batch.ticks] console := by
  cases batch with
  | step | tick => rfl
  | tickMultiple count => exact console.tickMultiple_eq_iterate count
  | iterate shared config =>
      show ((shared.around config console).iterate.2.console?).getD console = _
      rw [Inspection.iterate_around]
      rfl

/-- So a list of batches is all of their ticks together. Only the number of ticks counts, and not
how it was divided. -/
theorem run_eq_iterate (console : Console) (batches : List Batch) :
    run console batches = Console.tick^[(batches.map ticks).sum] console := by
  induction batches generalizing console with
  | nil => rfl
  | cons first rest ih =>
      refine (ih (first.apply console)).trans ?_
      rw [apply_eq_iterate, ← Function.iterate_add_apply, List.map_cons, List.sum_cons,
        Nat.add_comm]

/-- Ticks that are divided among calls in any way leave the console as single ticks do, whether or
not the debugger stops it on the way; and an iteration that follows changes nothing but its console,
and returns how many of its ticks were not held, which is the smaller of the ticks it may run and of
those before the first stop. -/
theorem divided_ticks_agree (console : Console) (batches : List Batch) :
    let reached := run console batches
    reached = Console.tick^[(batches.map ticks).sum] console ∧
      ∀ (shared : Inspection) (config : SessionConfig),
        let iterated := (shared.around config reached).iterate
        iterated.2 = shared.around config (Console.tick^[config.ticksPerIteration] reached) ∧
          iterated.1 =
            (reached.steps config.ticksPerIteration).1.countP (· ≠ .stopped) ∧
          (iterated.1 : ℕ∞) = min (config.ticksPerIteration : ℕ∞) reached.ticksToStop := by
  intro reached
  refine ⟨run_eq_iterate console batches, ?_⟩
  intro shared config iterated
  have runs : iterated = _ := Inspection.iterate_around shared config reached
  rw [runs]
  exact ⟨rfl, rfl, reached.goingSteps_eq_min config.ticksPerIteration⟩

end Batch

end Handheld
