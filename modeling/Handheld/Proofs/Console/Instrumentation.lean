import Handheld.Proofs.Console.Tick

/-!
# Consoles under a debugger

Two consoles whose processors, memories, clocks and counters agree do the same in a step that
neither debugger holds (`Console.SameMachine.step`). A console is stepped through its stops by
letting execution go on whenever a step was held (`Console.stepsThroughStops`), and
`Console.instrumentation_transparent` compares that with steps without instrumentation.
-/

namespace Handheld.Console

/-- Two consoles that differ in their debuggers and configurations only. -/
structure SameMachine (a b : Console) : Prop where
  machine : a.machine = b.machine
  runState : a.runState = b.runState
  clock : a.clock = b.clock
  retired : a.retired = b.retired

theorem ofExecute_ne_stopped (outcome : ExecuteOutcome) :
    StepOutcome.ofExecute outcome ≠ .stopped := by
  cases outcome <;> exact StepOutcome.noConfusion

theorem execute_ne_stopped (machine : Machine) : (execute machine).1 ≠ .stopped := by
  unfold execute
  split
  · exact StepOutcome.noConfusion
  · exact ofExecute_ne_stopped _

/-- A step reports that it was held when the debugger holds execution, and only then. So the reports
tell which steps did nothing. -/
theorem step_eq_stopped_iff (console : Console) :
    console.step.1 = .stopped ↔ console.isStopped = true := by
  unfold step
  split
  · rename_i stopped
    exact iff_of_true rfl stopped
  · rename_i going
    refine iff_of_false ?_ going
    split
    · exact StepOutcome.noConfusion
    · exact execute_ne_stopped console.machine

theorem step_ne_stopped {console : Console} (going : console.isStopped = false) :
    console.step.1 ≠ .stopped := by
  rw [ne_eq, step_eq_stopped_iff, going]
  exact Bool.false_ne_true

/-! ## Steps -/

/-- The outcomes of a number of steps, and the console after them. -/
def steps (console : Console) : Nat → List StepOutcome × Console
  | 0 => ([], console)
  | count + 1 =>
    let (outcomes, last) := console.tick.steps count
    (console.step.1 :: outcomes, last)

/-- Steps until a number of them have not been held by the debugger. Whenever one is, execution is
let go on. -/
def stepsThroughStops (console : Console) : Nat → List StepOutcome × Console
  | 0 => ([], console)
  | count + 1 =>
    if _held : console.step.1 = .stopped then
      let (outcomes, last) := (console.tick.setStopped false).stepsThroughStops (count + 1)
      (.stopped :: outcomes, last)
    else
      let (outcomes, last) := console.tick.stepsThroughStops count
      (console.step.1 :: outcomes, last)
termination_by count => (count, console.isStopped.toNat)
decreasing_by
  · rw [(step_eq_stopped_iff console).mp _held]
    exact .right _ Nat.zero_lt_one
  · exact .left _ _ (Nat.lt_succ_self _)

theorem stepsThroughStops_zero (console : Console) :
    console.stepsThroughStops 0 = ([], console) := by
  rw [stepsThroughStops]

theorem stepsThroughStops_of_stopped {console : Console} (stopped : console.isStopped = true)
    (count : Nat) :
    console.stepsThroughStops (count + 1) =
      (.stopped :: ((console.setStopped false).stepsThroughStops (count + 1)).1,
        ((console.setStopped false).stepsThroughStops (count + 1)).2) := by
  rw [stepsThroughStops, dif_pos ((step_eq_stopped_iff console).mpr stopped),
    tick_of_stopped stopped]

theorem stepsThroughStops_of_going {console : Console} (going : console.isStopped = false)
    (count : Nat) :
    console.stepsThroughStops (count + 1) =
      (console.step.1 :: (console.tick.stepsThroughStops count).1,
        (console.tick.stepsThroughStops count).2) := by
  rw [stepsThroughStops, dif_neg (step_ne_stopped going)]

/-! ## The comparison -/

namespace SameMachine

variable {a b : Console}

theorem setStopped (same : SameMachine a b) (stopped : Bool) :
    SameMachine a (b.setStopped stopped) :=
  ⟨same.machine, same.runState, same.clock, same.retired⟩

/-- A halted processor waits without the debugger. -/
theorem stepHalted (same : SameMachine a b) :
    a.stepHalted.1 = b.stepHalted.1 ∧ SameMachine a.stepHalted.2 b.stepHalted.2 := by
  obtain ⟨machine, runState, clock, debugger, config, retired⟩ := a
  obtain ⟨_, _, _, otherDebugger, otherConfig, _⟩ := b
  obtain ⟨rfl, rfl, rfl, rfl⟩ := same
  exact ⟨rfl, rfl, rfl, rfl, rfl⟩

/-- The debugger follows the processor, which does not look back. -/
theorem stepRunning (same : SameMachine a b) :
    a.stepRunning.1 = b.stepRunning.1 ∧ SameMachine a.stepRunning.2 b.stepRunning.2 := by
  obtain ⟨machine, runState, clock, debugger, config, retired⟩ := a
  obtain ⟨_, _, _, otherDebugger, otherConfig, _⟩ := b
  obtain ⟨rfl, rfl, rfl, rfl⟩ := same
  exact ⟨rfl, rfl, rfl, rfl, rfl⟩

/-- A step that no debugger holds does not depend on the debugger: it has the same outcome with any
other, and leaves the same machine. -/
theorem step (same : SameMachine a b) (goingA : a.isStopped = false)
    (goingB : b.isStopped = false) : a.step.1 = b.step.1 ∧ SameMachine a.tick b.tick := by
  have wakes : a.runState.wakeOn a.io.pendingInterrupts =
      b.runState.wakeOn b.io.pendingInterrupts := by
    rw [io, bus, same.machine, same.runState]
    rfl
  unfold tick Console.step
  rw [goingA, goingB, if_neg Bool.false_ne_true, if_neg Bool.false_ne_true, wakes]
  split
  · exact same.stepHalted
  · exact same.stepRunning

end SameMachine

/-- Without instrumentation no tick holds execution, and none attaches the debugger, so that this
remains so. -/
theorem going_tick {console : Console} (going : console.isStopped = false)
    (disabled : console.debugger.enabled = false) :
    console.tick.isStopped = false ∧ console.tick.debugger.enabled = false := by
  unfold tick step
  rw [going, if_neg Bool.false_ne_true]
  split
  · exact ⟨going, disabled⟩
  · refine ⟨?_, (Debugger.enabled_afterTick _ _ _ _).trans disabled⟩
    refine (Debugger.stopped_afterTick _ _ _ _).trans ?_
    rw [disabled, Bool.false_and, Bool.or_false]
    exact going

/-- A console without instrumentation and one under any debugger, which is let go on at every stop,
do the same: of as many steps that are not held, the outcomes are the same, and afterwards
processor, memory, clock and counter are. -/
theorem instrumentation_transparent {plain watched : Console}
    (same : SameMachine plain watched) (going : plain.isStopped = false)
    (disabled : plain.debugger.enabled = false) (count : Nat) :
    (watched.stepsThroughStops count).1.filter (· ≠ .stopped) = (plain.steps count).1 ∧
      SameMachine (plain.steps count).2 (watched.stepsThroughStops count).2 := by
  induction count generalizing plain watched with
  | zero =>
      rw [stepsThroughStops_zero]
      exact ⟨rfl, same⟩
  | succ count ih =>
      -- One step of both from where neither is held, and then the rest.
      have onward (watched : Console) (same : SameMachine plain watched)
          (free : watched.isStopped = false) :
          (watched.stepsThroughStops (count + 1)).1.filter (· ≠ .stopped) =
              (plain.steps (count + 1)).1 ∧
            SameMachine (plain.steps (count + 1)).2
              (watched.stepsThroughStops (count + 1)).2 := by
        obtain ⟨outcome, after⟩ := same.step going free
        obtain ⟨stillGoing, stillDisabled⟩ := going_tick going disabled
        obtain ⟨outcomes, last⟩ := ih after stillGoing stillDisabled
        rw [stepsThroughStops_of_going free]
        refine ⟨?_, last⟩
        rw [List.filter_cons, if_pos (decide_eq_true (step_ne_stopped free)), outcomes, ← outcome]
        rfl
      cases stopped : watched.isStopped with
      | false => exact onward watched same stopped
      | true =>
          have resumed := onward (watched.setStopped false) (same.setStopped false) rfl
          rw [stepsThroughStops_of_stopped stopped]
          refine ⟨?_, resumed.2⟩
          rw [List.filter_cons, if_neg (by decide)]
          exact resumed.1

/-- A breakpoint at the target of the first instruction of the boot ROM does not show: released, the
machine goes on as if it had never been held. -/
theorem boot_with_breakpoint_transparent :
    let plain := powerOn ⟨false, 0⟩
    let watched := (powerOn .default).addBreakpoint .arm 0x38
    SameMachine plain watched ∧ plain.isStopped = false ∧ plain.debugger.enabled = false ∧
      (watched.stepsThroughStops 20).1.filter (· ≠ .stopped) = (plain.steps 20).1 ∧
      SameMachine (plain.steps 20).2 (watched.stepsThroughStops 20).2 := by
  intro plain watched
  have same : SameMachine plain watched := ⟨rfl, rfl, rfl, rfl⟩
  exact ⟨same, rfl, rfl, instrumentation_transparent same rfl rfl 20⟩

end Handheld.Console
