import Handheld.Proofs.Console.Tick
import Handheld.Proofs.Video.Advance

/-!
# Waiting for an interrupt

A tick of a halted console moves the clock on by a cycle and does nothing else. Since the clock adds
up the cycles it is advanced by, ticks in a row are one advance of the clock by their number
(`Console.iterate_tick_of_quiet`), as long as no enabled interrupt is requested. The first cycle
after which one is requested ends the wait (`Console.cyclesToWake`), and the next tick is one of a
running processor. `Console.halted_ticks_fast_forward` puts this together.
-/

namespace Handheld.Console

/-- The console with its clock moved on, and the registers that the clock drives, and nothing
else. -/
def fastForward (console : Console) (cycles : Nat) : Console :=
  match console with
  | ⟨⟨regs, bus⟩, runState, clock, debugger, config, retired⟩ =>
    let scan := clock.advance bus.io cycles
    ⟨⟨regs, { bus with io := scan.io }⟩, runState, scan.clock, debugger, config, retired⟩

/-- The interrupts that are enabled and requested after a number of cycles of the clock. -/
def pendingAfter (console : Console) (cycles : Nat) : Half :=
  (console.clock.advance console.io cycles).io.pendingInterrupts

/-- The fewest cycles, up to a limit, after which an enabled interrupt is requested, or else the
limit. -/
def cyclesToWake (console : Console) (limit : Nat) : Nat :=
  ((List.range (limit + 1)).find? fun cycles => console.pendingAfter cycles != 0).getD limit

/-! ## The clock moved on -/

section

variable (console : Console)

/-- Letting cycles pass at once changes the clock and the I/O registers, as the clock drives them,
and nothing else. -/
theorem fastForward_of_advance {cycles : Nat} {clock : Clock} {io : IoRegisters}
    (moved : (console.clock.advance console.io cycles).clock = clock)
    (driven : (console.clock.advance console.io cycles).io = io) :
    console.fastForward cycles =
      ⟨⟨console.regs, { console.bus with io }⟩, console.runState, clock, console.debugger,
        console.config, console.retired⟩ := by
  subst moved driven
  rfl

theorem fastForward_zero : console.fastForward 0 = console := by
  have still : console.clock.advance console.io 0 = ⟨console.clock, console.io, false⟩ :=
    Clock.advance_zero _ _
  exact console.fastForward_of_advance (congrArg Scan.clock still) (congrArg Scan.io still)

/-- Cycles can pass in two parts. -/
theorem fastForward_add (first second : Nat) :
    console.fastForward (first + second) = (console.fastForward first).fastForward second := by
  have parts : console.clock.advance console.io (first + second) =
      Scan.advance (console.clock.advance console.io first) second :=
    (Scan.run_add _ first second).trans (Scan.run_eq_advance _ second)
  have moved := congrArg Scan.clock parts
  have driven := congrArg Scan.io parts
  exact console.fastForward_of_advance moved driven

/-- What is pending after some cycles is what a look ahead by as many says. -/
theorem pendingInterrupts_fastForward (cycles : Nat) :
    (console.fastForward cycles).io.pendingInterrupts = console.pendingAfter cycles := rfl

/-- The clock does not touch the master enable. -/
theorem masterEnable_fastForward (cycles : Nat) :
    (console.fastForward cycles).io.masterEnable = console.io.masterEnable :=
  congrArg (BitVec.getLsbD · 0)
    (console.clock.readHalf_advance_of_ne console.io cycles (by decide) (by decide) (by decide))

end

/-! ## The end of the wait -/

section

variable {console : Console} {limit : Nat}

/-- Before the cycle of waking nothing is pending, as it is the first cycle at which anything is. -/
theorem quiet_of_lt_cyclesToWake {cycles : Nat} (before : cycles < console.cyclesToWake limit) :
    console.pendingAfter cycles = 0 := by
  unfold cyclesToWake at before
  cases found : (List.range (limit + 1)).find? fun cycles => console.pendingAfter cycles != 0 with
  | none =>
      rw [found, Option.getD_none] at before
      have quiet := List.find?_range_eq_none.mp found cycles (Nat.lt_succ_of_lt before)
      simpa using quiet
  | some wakes =>
      rw [found, Option.getD_some] at before
      have quiet := (List.find?_range_eq_some.mp found).2.2 cycles before
      simpa using quiet

/-- and at it something is, if it comes within the limit. -/
theorem pending_of_cyclesToWake_lt (inTime : console.cyclesToWake limit < limit) :
    console.pendingAfter (console.cyclesToWake limit) ≠ 0 := by
  unfold cyclesToWake at inTime ⊢
  cases found : (List.range (limit + 1)).find? fun cycles => console.pendingAfter cycles != 0 with
  | none =>
      rw [found, Option.getD_none] at inTime
      exact absurd inTime (Nat.lt_irrefl _)
  | some wakes => exact bne_iff_ne.mp (List.find?_range_eq_some.mp found).1

/-- The cycle of waking is the first one with something pending, if it comes within the limit of the
search. -/
theorem cyclesToWake_eq {cycles : Nat} (within : cycles ≤ limit)
    (quiet : ∀ earlier < cycles, console.pendingAfter earlier = 0)
    (pending : console.pendingAfter cycles ≠ 0) : console.cyclesToWake limit = cycles := by
  have found : (List.range (limit + 1)).find? (fun cycles => console.pendingAfter cycles != 0) =
      some cycles := by
    refine List.find?_range_eq_some.mpr ⟨bne_iff_ne.mpr pending,
      List.mem_range.mpr (Nat.lt_succ_of_le within), fun earlier before => ?_⟩
    rw [quiet earlier before]
    rfl
  rw [cyclesToWake, found, Option.getD_some]

/-- Nothing is requested before the boundary ahead of the clock, so what is pending stays as it is
until then. -/
theorem pendingAfter_of_lt_boundary {cycles : Nat}
    (before : console.clock.cycle + cycles < console.clock.boundary) :
    console.pendingAfter cycles = console.io.pendingInterrupts :=
  congrArg (·.io.pendingInterrupts) (Scan.run_of_lt_boundary before)

end

/-! ## Ticks -/

/-- A halted console waits as long as no enabled interrupt is requested: the step takes one cycle
and lets the clock move on. -/
theorem step_of_quiet (console : Console) (halted : console.isHalted = true)
    (going : console.isStopped = false) (quiet : console.io.pendingInterrupts = 0) :
    console.step = (.halted 1, console.fastForward 1) := by
  have waits : console.runState.wakeOn console.io.pendingInterrupts = .halted := by
    rw [quiet, beq_iff_eq.mp halted]
    rfl
  unfold step
  rw [going, waits]
  rfl

section

variable {console : Console}

/-- Waiting is moving the clock on: as long as nothing is pending, ticks of one cycle each come to
one move by their number. By induction on the cycles. -/
theorem iterate_tick_of_quiet (halted : console.isHalted = true)
    (going : console.isStopped = false) {cycles : Nat}
    (quiet : ∀ earlier < cycles, console.pendingAfter earlier = 0) :
    tick^[cycles] console = console.fastForward cycles := by
  induction cycles with
  | zero => exact console.fastForward_zero.symm
  | succ cycles ih =>
      have waited := ih fun earlier before => quiet earlier (Nat.lt_succ_of_lt before)
      have still := quiet cycles (Nat.lt_succ_self cycles)
      rw [Function.iterate_succ_apply', waited, fastForward_add, tick,
        (console.fastForward cycles).step_of_quiet halted going still]

/-- A requested interrupt that is enabled ends the wait. -/
theorem step_of_pending (going : console.isStopped = false)
    (pending : console.io.pendingInterrupts ≠ 0) : console.step = console.stepRunning := by
  unfold step
  rw [going, console.runState.wakeOn_of_pending pending]
  rfl

/-- What a tick of a running processor reports and does is what it executes, after which the clock
moves on by the cycles of that. -/
theorem stepRunning_of_execute {outcome : StepOutcome} {machine : Machine}
    (executed : execute console.machine = (outcome, machine)) :
    console.stepRunning.1 = outcome ∧ console.stepRunning.2.regs = machine.regs ∧
      console.stepRunning.2.bus = { machine.bus with io := console.stepRunning.2.io } := by
  have reported : (execute console.machine).1 = outcome := congrArg Prod.fst executed
  have left : (execute console.machine).2 = machine := congrArg Prod.snd executed
  subst reported left
  exact ⟨rfl, rfl, rfl⟩

end

/-- Ticks of a halted console are a fast-forward of the video clock. Up to the first cycle after
which an enabled interrupt is requested, or to any limit before it, every tick reports one halted
cycle, and together they do what one advance of the clock by their number does to the clock and the
peripheral registers, and nothing else. If the wait ends within the limit, the next tick is not
halted: it takes the interrupt, from the address that was in `r15` all along, if interrupts are
switched on and not masked, and otherwise executes the instruction there. -/
theorem halted_ticks_fast_forward {console : Console} (halted : console.isHalted = true)
    (going : console.isStopped = false) (limit : Nat) :
    let wait := console.cyclesToWake limit
    let woken := tick^[wait] console
    (∀ earlier < wait, (tick^[earlier] console).step.1 = .halted 1) ∧
      woken = console.fastForward wait ∧
      (wait < limit → (∀ cycles, woken.step.1 ≠ .halted cycles) ∧
        if console.io.masterEnable = true ∧ console.regs.flag Status.irqMask = false then
          woken.step.1 = .interrupted console.regs.pc interruptEntryCycles ∧
            woken.tick.regs = console.regs.enterException .irq ∧
            woken.tick.bus = { console.bus with io := woken.tick.io }
        else
          woken.step.1 = .ofExecute woken.machine.step.1 ∧
            woken.tick.regs = woken.machine.step.2.regs ∧
            woken.tick.bus = { woken.machine.step.2.bus with io := woken.tick.io }) := by
  intro wait woken
  have quiet {cycles : Nat} (within : cycles ≤ wait) :
      ∀ earlier < cycles, console.pendingAfter earlier = 0 :=
    fun earlier before => quiet_of_lt_cyclesToWake (Nat.lt_of_lt_of_le before within)
  have waited : woken = console.fastForward wait :=
    iterate_tick_of_quiet halted going (quiet (Nat.le_refl _))
  -- No earlier cycle requests an enabled interrupt, so every tick up to the last is one of waiting,
  -- and the last leaves a pending interrupt behind which the next one meets.
  refine ⟨fun earlier before => ?_, waited, fun inTime => ?_⟩
  · rw [iterate_tick_of_quiet halted going (quiet (Nat.le_of_lt before)),
      (console.fastForward earlier).step_of_quiet halted going (quiet_of_lt_cyclesToWake before)]
  · have pending : woken.io.pendingInterrupts ≠ 0 := by
      rw [waited, pendingInterrupts_fastForward]
      exact pending_of_cyclesToWake_lt inTime
    have goingOn : woken.isStopped = false := by
      rw [waited]
      exact going
    have regs : woken.regs = console.regs := by
      rw [waited]
      rfl
    have masterEnable : woken.io.masterEnable = console.io.masterEnable := by
      rw [waited, masterEnable_fastForward]
    have takes : takesInterrupt woken.machine = true ↔
        console.io.masterEnable = true ∧ console.regs.flag Status.irqMask = false := by
      rw [takesInterrupt_iff, and_iff_right pending, regs, masterEnable]
    rw [tick, step_of_pending goingOn pending]
    refine ⟨execute_ne_halted woken.machine, ?_⟩
    split
    · rename_i taken
      have executed : execute woken.machine =
          (.interrupted woken.regs.pc interruptEntryCycles,
            woken.machine.mapRegs (·.enterException .irq)) := if_pos (takes.mpr taken)
      obtain ⟨reported, registers, memory⟩ := stepRunning_of_execute executed
      refine ⟨by rw [reported, regs], by rw [registers, ← regs]; rfl, ?_⟩
      have sameBus : { woken.bus with io := woken.stepRunning.2.io } =
          { console.bus with io := woken.stepRunning.2.io } := by
        rw [waited]
        rfl
      exact memory.trans sameBus
    · rename_i untaken
      have executed : execute woken.machine =
          (.ofExecute woken.machine.step.1, woken.machine.step.2) := if_neg (mt takes.mp untaken)
      exact stepRunning_of_execute executed

/-- Enables the interrupt of the horizontal blank and asks for low power. -/
def sleepProgram : List Word :=
  [0xE3A00301, 0xE3A01010, 0xE1C010B4, 0xE3A01003, 0xE2802C02, 0xE1C210B0, 0xE1C210B8, 0xE5C01301]

def asleep : Console :=
  (powerOn .default).run
    [.loadRom (sleepProgram.flatMap Word.bytes).toArray, .skipBios, .tickMultiple 8]

/-- The program waits for the blank of the first line, which is 948 cycles ahead, and its interrupt
is taken in the tick that follows. -/
theorem asleep_until_hBlank :
    asleep.Reachable ∧ asleep.isHalted = true ∧ asleep.isStopped = false ∧
      asleep.cyclesToWake 2000 = 948 ∧ tick^[948] asleep = asleep.fastForward 948 ∧
      (tick^[948] asleep).step.1 = .interrupted 0x08000020 interruptEntryCycles := by
  obtain ⟨halted, going, position, quiet, pending, enabled, unmasked, pc⟩ :
      asleep.isHalted = true ∧ asleep.isStopped = false ∧ asleep.clock.cycle = 12 ∧
        asleep.io.pendingInterrupts = 0 ∧ asleep.pendingAfter 948 ≠ 0 ∧
        asleep.io.masterEnable = true ∧ asleep.regs.flag Status.irqMask = false ∧
        asleep.regs.pc = 0x08000020 := by
    decide +kernel
  have boundary : asleep.clock.boundary = 960 := by
    rw [Clock.boundary, position]
    rfl
  have wait : asleep.cyclesToWake 2000 = 948 := by
    refine cyclesToWake_eq (by decide) (fun earlier before => ?_) pending
    rw [pendingAfter_of_lt_boundary (by omega), quiet]
  obtain ⟨_, waited, wakes⟩ := halted_ticks_fast_forward halted going 2000
  rw [wait, if_pos ⟨enabled, unmasked⟩, pc] at wakes
  rw [wait] at waited
  exact ⟨⟨_, _, rfl⟩, halted, going, wait, waited, (wakes (by decide)).2.1⟩

end Handheld.Console
