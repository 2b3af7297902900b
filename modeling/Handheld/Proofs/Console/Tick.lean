import Handheld.Proofs.Console.Processor
import Handheld.Proofs.Memory.WorkRam
import Mathlib.Logic.Function.Iterate

/-!
# One tick after the other

A tick that takes an interrupt or executes an instruction leaves the registers and the memory of the
processor as the interrupt or the instruction does, and goes on running as long as nothing asks for
low power (`Console.Ticked`). Only the peripheral registers move on with the clock.
-/

namespace Handheld

namespace Debugger

/-- What the debugger does after a tick does not attach or detach it. That is left to the user. -/
@[simp] theorem enabled_afterTick (debugger : Debugger) (committed? : Option Word) (next : Word)
    (set : InstructionSet) :
    (debugger.afterTick committed? next set).enabled = debugger.enabled := by
  unfold afterTick record
  dsimp only
  split
  · split <;> rfl
  · rfl

/-- What the debugger does after a tick sets no breakpoint and removes none. -/
@[simp] theorem breakpoints_afterTick (debugger : Debugger) (committed? : Option Word)
    (next : Word) (set other : InstructionSet) :
    (debugger.afterTick committed? next set).breakpoints other = debugger.breakpoints other := by
  unfold afterTick record
  dsimp only
  split
  · split <;> rfl
  · rfl

/-- Execution is held from the tick on that reaches a breakpoint under an attached debugger. A tick
never releases it. -/
theorem stopped_afterTick (debugger : Debugger) (committed? : Option Word) (next : Word)
    (set : InstructionSet) :
    (debugger.afterTick committed? next set).stopped =
      (debugger.stopped || (debugger.enabled && (debugger.breakpoints set).contains next)) := by
  unfold afterTick record
  dsimp only
  split
  · rename_i checked
    have enabled : debugger.enabled = true := checked
    rw [enabled, Bool.true_and]
    split <;> rfl
  · rename_i unchecked
    have disabled : debugger.enabled = false := Bool.eq_false_iff.mpr unchecked
    rw [disabled, Bool.false_and, Bool.or_false]
    rfl

/-- Nothing holds execution, and no breakpoint for ARM code is at any of the addresses. -/
structure Passes (debugger : Debugger) (addresses : List Word) : Prop where
  notStopped : debugger.stopped = false
  noBreakpoint : debugger.enabled = true → ∀ address ∈ addresses,
    (debugger.breakpoints .arm).contains address = false

/-- Reaching an address without a breakpoint does not hold execution, and the addresses that are to
be passed later are still without one. -/
theorem Passes.afterTick {debugger : Debugger} {next : Word} {rest : List Word}
    (passes : debugger.Passes (next :: rest)) (committed? : Option Word) :
    (debugger.afterTick committed? next .arm).Passes rest := by
  refine ⟨?_, ?_⟩
  · rw [stopped_afterTick, passes.notStopped, Bool.false_or]
    by_cases checked : debugger.enabled = true
    · rw [checked, passes.noBreakpoint checked next List.mem_cons_self]
      rfl
    · rw [Bool.eq_false_iff.mpr checked]
      rfl
  · rw [enabled_afterTick, breakpoints_afterTick]
    intro checked address member
    exact passes.noBreakpoint checked address (List.mem_cons_of_mem _ member)

/-- Nothing holds execution, and nothing will. -/
structure Unwatched (debugger : Debugger) : Prop where
  notStopped : debugger.stopped = false
  noBreakpoint : ∀ set address, (debugger.breakpoints set).contains address = false

/-- A debugger without breakpoints has none after a tick, and holds nothing. -/
theorem Unwatched.afterTick {debugger : Debugger} (unwatched : debugger.Unwatched)
    (committed? : Option Word) (next : Word) (set : InstructionSet) :
    (debugger.afterTick committed? next set).Unwatched := by
  refine ⟨?_, ?_⟩
  · rw [stopped_afterTick, unwatched.notStopped, unwatched.noBreakpoint, Bool.and_false]
    rfl
  · intro other address
    rw [breakpoints_afterTick]
    exact unwatched.noBreakpoint other address

/-- Without breakpoints every address is passed. -/
theorem Unwatched.passes {debugger : Debugger} (unwatched : debugger.Unwatched)
    (addresses : List Word) : debugger.Passes addresses :=
  ⟨unwatched.notStopped, fun _ address _ => unwatched.noBreakpoint .arm address⟩

end Debugger

/-- A requested interrupt that is enabled ends a wait. -/
theorem RunState.wakeOn_of_pending (runState : RunState) {pending : Half}
    (requested : pending ≠ 0) : runState.wakeOn pending = .running := by
  cases runState with
  | halted => exact if_neg requested
  | running => rfl

namespace Console

/-- The console `after` comes out of a tick that left the processor as in `machine`. -/
structure Ticked (before : Console) (machine : Machine) (after : Console) : Prop where
  regs : after.regs = machine.regs
  bus : after.bus = { machine.bus with io := after.io }
  running : after.runState = .running
  noHaltRequest : after.io.haltRequested = false
  debugger : ∃ committed?, after.debugger =
    before.debugger.afterTick committed? machine.regs.pc machine.regs.instructionSet

/-- In a tick that nothing holds back the processor has its turn, also if it wakes in this very
tick. -/
theorem tick_eq_stepRunning {console : Console} (awake : console.isStopped = false)
    (wakes : console.runState.wakeOn console.io.pendingInterrupts = .running) :
    console.tick = console.stepRunning.2 := by
  unfold tick step
  rw [awake, wakes]
  rfl

/-- A tick of a console that is awake does what the processor does, if that makes no wish to sleep.
Then the clock advances, and the debugger looks at the next address. -/
theorem ticked_of_execute {console : Console} {machine : Machine}
    (awake : console.isStopped = false)
    (wakes : console.runState.wakeOn console.io.pendingInterrupts = .running)
    (executed : (execute console.machine).2 = machine)
    (noHaltRequest : machine.bus.io.haltRequested = false) :
    Ticked console machine console.tick := by
  rw [tick_eq_stepRunning awake wakes]
  subst executed
  refine ⟨rfl, rfl, ?_, Clock.haltRequested_advance _ _ _, _, rfl⟩
  show (if (execute console.machine).2.bus.io.haltRequested then RunState.halted else .running) = _
  rw [noHaltRequest]
  rfl

/-- An interrupt is taken when one is requested that is enabled, interrupts are switched on and the
status does not mask them. -/
theorem takesInterrupt_iff {console : Console} :
    takesInterrupt console.machine = true ↔
      console.io.pendingInterrupts ≠ 0 ∧ console.io.masterEnable = true ∧
        console.regs.flag Status.irqMask = false := by
  show (console.io.pendingInterrupts != 0 && console.io.masterEnable &&
    !console.regs.flag Status.irqMask) = true ↔ _
  rw [Bool.and_eq_true, Bool.and_eq_true, Bool.not_eq_true', bne_iff_ne, and_assoc]

/-- A tick takes an interrupt if one is pending and enabled by both masks. It does so whether the
processor was running or asleep. -/
theorem ticked_interrupt {console : Console} (awake : console.isStopped = false)
    (pending : console.io.pendingInterrupts ≠ 0) (enabled : console.io.masterEnable = true)
    (unmasked : console.regs.flag Status.irqMask = false)
    (noHaltRequest : console.io.haltRequested = false) :
    Ticked console (console.machine.mapRegs (·.enterException .irq)) console.tick := by
  have taken := takesInterrupt_iff.mpr ⟨pending, enabled, unmasked⟩
  refine ticked_of_execute awake (console.runState.wakeOn_of_pending pending) ?_ noHaltRequest
  rw [execute, if_pos taken]

/-- No interrupt is taken while the processor masks them, whatever is pending and enabled in the
peripherals. -/
theorem takesInterrupt_of_masked {console : Console}
    (masked : console.regs.flag Status.irqMask = true) :
    takesInterrupt console.machine = false := by
  refine Bool.eq_false_iff.mpr fun taken => ?_
  have unmasked := (takesInterrupt_iff.mp taken).2.2
  exact absurd masked (Bool.eq_false_iff.mp unmasked)

/-- A tick of a running processor that takes no interrupt executes the ARM instruction it has
fetched. -/
theorem ticked_instruction {console : Console} (awake : console.isStopped = false)
    (running : console.runState = .running) (untaken : takesInterrupt console.machine = false)
    (arm : console.regs.thumb = false) {instruction : Arm.Instruction}
    (decoded : Arm.decode console.machine.fetchWord = ⟨.al, instruction⟩)
    (noTrap : instruction.trap? = none)
    (noHaltRequest :
      (instruction.execute (console.machine.advance .arm)).bus.io.haltRequested = false) :
    Ticked console (instruction.execute (console.machine.advance .arm)) console.tick := by
  refine ticked_of_execute awake ?_ ?_ noHaltRequest
  · rw [running]
    rfl
  · rw [execute, untaken, if_neg Bool.false_ne_true]
    exact congrArg Prod.snd (Machine.step_of_decode arm decoded noTrap)

/-! ## What a tick comes to -/

/-- What the processor executes is never told as sleep. -/
theorem execute_ne_halted (machine : Machine) (cycles : Nat) :
    (execute machine).1 ≠ .halted cycles := by
  unfold execute
  split
  · exact StepOutcome.noConfusion
  · dsimp only
    cases machine.step.1 <;> exact StepOutcome.noConfusion

/-- A tick is held by the debugger, or the processor waits, or it has its turn. What is shown of
ticks is shown in these three cases. -/
theorem step_cases (console : Console) :
    (console.isStopped = true ∧ console.step = (.stopped, console)) ∨
      (console.isStopped = false ∧ console.step = console.stepHalted) ∨
        (console.isStopped = false ∧ console.step = console.stepRunning) := by
  unfold step
  cases stopped : console.isStopped with
  | true => exact .inl ⟨rfl, if_pos rfl⟩
  | false =>
      rw [if_neg Bool.false_ne_true]
      cases console.runState.wakeOn console.io.pendingInterrupts with
      | halted => exact .inr (.inl ⟨rfl, rfl⟩)
      | running => exact .inr (.inr ⟨rfl, rfl⟩)

/-! ## Ticks in a row -/

/-- A tick of a stopped console does nothing. -/
theorem tick_of_stopped {console : Console} (stopped : console.isStopped = true) :
    console.tick = console := by
  rw [tick, step, if_pos stopped]

/-- Nor do many ticks. -/
theorem tickMultiple_of_stopped {console : Console} (stopped : console.isStopped = true)
    (count : Nat) : console.tickMultiple count = console := by
  cases count with
  | zero => rfl
  | succ count => rw [tickMultiple, if_pos stopped]

/-- A number of ticks is one tick after the other, whether or not execution is held. -/
theorem tickMultiple_succ (console : Console) (count : Nat) :
    console.tickMultiple (count + 1) = console.tick.tickMultiple count := by
  rw [tickMultiple]
  split
  · rename_i stopped
    rw [tick_of_stopped stopped, tickMultiple_of_stopped stopped]
  · rfl

/-- Many ticks are one tick, iterated: where a console has stopped, further ticks change nothing. -/
theorem tickMultiple_eq_iterate (console : Console) (count : Nat) :
    console.tickMultiple count = tick^[count] console := by
  induction count generalizing console with
  | zero => rfl
  | succ count ih => rw [tickMultiple_succ, ih, Function.iterate_succ_apply]

/-- A tick sets no breakpoint. -/
theorem unwatched_tick {console : Console} (unwatched : console.debugger.Unwatched) :
    console.tick.debugger.Unwatched := by
  unfold tick step
  split
  · exact unwatched
  · split
    · exact unwatched
    · exact unwatched.afterTick _ _ _

/-- Without breakpoints no tick holds execution. -/
theorem unwatched_tickMultiple {console : Console} (unwatched : console.debugger.Unwatched)
    (count : Nat) : (console.tickMultiple count).debugger.Unwatched := by
  induction count generalizing console with
  | zero => exact unwatched
  | succ count ih =>
      rw [tickMultiple_succ]
      exact ih (unwatched_tick unwatched)

end Console

end Handheld
