import Handheld.Proofs.Console.Time
import Handheld.Proofs.Cpu.Reads

/-!
# Registers that nothing shows

Two consoles that differ at most in register bytes that a program cannot read back
(`Console.SameReadable`) do the same in a tick and differ at most in these bytes after it
(`Console.SameReadable.step`). The same goes for whatever else can be done to a console, so no run
ever brings the stored values to light (`Console.write_only_unobservable`).
-/

namespace Handheld

/-! ## The turn of the program -/

/-- Whether an interrupt is taken depends on registers that can be read: the master enable, the
enabled sources and the requests. -/
theorem Machine.SameReadable.takesInterrupt {a b : Machine} (same : a.SameReadable b) :
    Console.takesInterrupt a = Console.takesInterrupt b := by
  unfold Console.takesInterrupt
  rw [same.regs, same.bus.io.pendingInterrupts, same.bus.io.masterEnable]

/-- What is done to the registers alone is done alike on both sides. -/
theorem Machine.SameReadable.mapRegs {a b : Machine} (same : a.SameReadable b)
    (f : RegisterFile → RegisterFile) : (a.mapRegs f).SameReadable (b.mapRegs f) :=
  ⟨congrArg f same.regs, same.bus⟩

/-- One instruction, or one entry into an interrupt, has the same outcome on both sides and leaves
them alike. Of memory it only uses what it reads, and what it reads is the same. -/
theorem Machine.SameReadable.execute {a b : Machine} (same : a.SameReadable b) :
    (Console.execute a).1 = (Console.execute b).1 ∧
      (Console.execute a).2.SameReadable (Console.execute b).2 := by
  unfold Console.execute
  rw [same.takesInterrupt]
  split
  · refine ⟨?_, same.mapRegs (·.enterException .irq)⟩
    rw [same.regs]
  · obtain ⟨outcome, after⟩ := same.step
    exact ⟨congrArg StepOutcome.ofExecute outcome, after⟩

namespace Console

/-- Consoles that differ at most in register bytes that a program cannot read back. -/
structure SameReadable (a b : Console) : Prop where
  machine : a.machine.SameReadable b.machine
  runState : a.runState = b.runState
  clock : a.clock = b.clock
  debugger : a.debugger = b.debugger
  config : a.config = b.config
  retired : a.retired = b.retired

namespace SameReadable

variable {a b : Console}

theorem refl (console : Console) : SameReadable console console :=
  ⟨⟨rfl, .refl _⟩, rfl, rfl, rfl, rfl, rfl⟩

/-- A console stays as readable as it was if its I/O registers do. -/
theorem of_io {console : Console} {f : IoRegisters → IoRegisters}
    (io : console.io.SameReadable (f console.io)) : SameReadable console (console.mapIo f) :=
  ⟨⟨rfl, rfl, io⟩, rfl, rfl, rfl, rfl, rfl⟩

/-- Both debuggers are the same, so both consoles are stopped or neither is. -/
theorem isStopped (same : SameReadable a b) : a.isStopped = b.isStopped :=
  congrArg Debugger.stopped same.debugger

/-! ### Ticks -/

/-- A processor that sleeps advances the clock by one cycle on both sides, and wakes on both or on
neither. -/
theorem stepHalted (same : SameReadable a b) :
    a.stepHalted.1 = b.stepHalted.1 ∧ SameReadable a.stepHalted.2 b.stepHalted.2 := by
  have scan := same.machine.bus.io.advance b.clock haltedCycles
  refine ⟨rfl, ⟨same.machine.regs, ?_⟩, same.runState, ?_, same.debugger, same.config,
    same.retired⟩
  · change Bus.SameReadable { a.machine.bus with io := (a.clock.advance _ _).io } _
    rw [same.clock]
    exact same.machine.bus.withIo scan.io
  · change (a.clock.advance _ _).clock = _
    rw [same.clock]
    exact scan.clock

/-- A tick that executes does the same on both sides: the instruction, the wish to sleep, the clock
and what the debugger records. -/
theorem stepRunning (same : SameReadable a b) :
    a.stepRunning.1 = b.stepRunning.1 ∧ SameReadable a.stepRunning.2 b.stepRunning.2 := by
  obtain ⟨outcome, after⟩ := same.machine.execute
  -- All that the tick adds depends on the outcome, the registers and the clock, which agree.
  have scan := after.bus.io.clearHaltRequest.advance b.clock (execute b.machine).1.cycles
  refine ⟨outcome, ⟨after.regs, ?_⟩, ?_, ?_, ?_, same.config, ?_⟩
  · change Bus.SameReadable
      { (execute a.machine).2.bus with io := (a.clock.advance _ (execute a.machine).1.cycles).io } _
    rw [same.clock, outcome]
    exact after.bus.withIo scan.io
  · change (if (execute a.machine).2.bus.io.haltRequested then RunState.halted else .running) = _
    rw [after.bus.io.haltRequested]
    rfl
  · change (a.clock.advance _ (execute a.machine).1.cycles).clock = _
    rw [same.clock, outcome]
    exact scan.clock
  · change a.debugger.afterTick (execute a.machine).1.committedPc? (execute a.machine).2.regs.pc
      (execute a.machine).2.regs.instructionSet = _
    rw [same.debugger, outcome, after.regs]
    rfl
  · rw [a.retired_stepRunning, b.retired_stepRunning, same.retired]
    change _ + (if (execute a.machine).1.committedPc?.isSome then 1 else 0) = _
    rw [outcome]
    rfl

/-- A tick does the same to both consoles and has the same outcome, whether it is held, sleeps or
executes. -/
theorem step (same : SameReadable a b) : a.step.1 = b.step.1 ∧ SameReadable a.tick b.tick := by
  have pending : a.io.pendingInterrupts = b.io.pendingInterrupts :=
    same.machine.bus.io.pendingInterrupts
  unfold tick Console.step
  rw [same.isStopped, same.runState, pending]
  split
  · exact ⟨rfl, same⟩
  · split
    · exact same.stepHalted
    · exact same.stepRunning

/-- Any number of ticks has the same outcomes on both sides and leaves them alike. By induction on
the ticks. -/
theorem tickMultiple (same : SameReadable a b) (count : Nat) :
    a.tickOutcomes count = b.tickOutcomes count ∧
      SameReadable (a.tickMultiple count) (b.tickMultiple count) := by
  induction count generalizing a b with
  | zero => exact ⟨rfl, same⟩
  | succ count ih =>
      obtain ⟨outcome, after⟩ := same.step
      obtain ⟨outcomes, last⟩ := ih after
      unfold tickOutcomes Console.tickMultiple
      rw [same.isStopped, outcome, outcomes]
      split
      · exact ⟨rfl, same⟩
      · exact ⟨rfl, last⟩

/-! ### Changes from outside -/

/-- The image of a Game Pak replaces the same memory on both sides. -/
theorem loadRom (same : SameReadable a b) (image : Array Byte) :
    SameReadable (a.loadRom image) (b.loadRom image) := by
  refine ⟨⟨same.machine.regs, ?_, same.machine.bus.io⟩, same.runState, same.clock, same.debugger,
    same.config, same.retired⟩
  change b.machine.bus.loadGamePak image =
    { a.machine.bus.loadGamePak image with io := b.machine.bus.io }
  rw [same.machine.bus.memory]
  rfl

theorem skipBios (same : SameReadable a b) : SameReadable a.skipBios b.skipBios :=
  ⟨same.machine.mapRegs _, rfl, same.clock,
    congrArg (Debugger.setExecutingPc · BootRom.cartridgeEntry) same.debugger, same.config,
    same.retired⟩

/-- A key event reaches registers that can be read, and these are the same. -/
theorem setKey (same : SameReadable a b) (key : Key) (pressed : Bool) :
    SameReadable (a.setKey key pressed) (b.setKey key pressed) :=
  ⟨⟨same.machine.regs, same.machine.bus.withIo (same.machine.bus.io.setKey key pressed)⟩,
    same.runState, same.clock, same.debugger, same.config, same.retired⟩

/-- The debugger takes no part in the difference. -/
theorem mapDebugger (same : SameReadable a b) (f : Debugger → Debugger) :
    SameReadable (a.mapDebugger f) (b.mapDebugger f) :=
  ⟨same.machine, same.runState, same.clock, congrArg f same.debugger, same.config, same.retired⟩

theorem reset (same : SameReadable a b) : SameReadable a.reset b.reset := by
  unfold Console.reset
  rw [same.config, same.debugger]
  exact .refl _

/-! ### Runs -/

/-- Every operation has the same outcomes on both consoles and leaves them alike. One case for each
operation. -/
theorem apply (same : SameReadable a b) (operation : Operation) :
    operation.outcomes a = operation.outcomes b ∧
      SameReadable (operation.apply a) (operation.apply b) := by
  cases operation with
  | step | tick =>
      obtain ⟨outcome, after⟩ := same.step
      exact ⟨congrArg (fun outcome => [outcome]) outcome, after⟩
  | tickMultiple count => exact same.tickMultiple count
  | loadRom image => exact ⟨rfl, same.loadRom image⟩
  | loadTestRom => exact ⟨rfl, same.loadRom _⟩
  | skipBios => exact ⟨rfl, same.skipBios⟩
  | setKey key pressed => exact ⟨rfl, same.setKey key pressed⟩
  | addBreakpoint set address => exact ⟨rfl, same.mapDebugger (·.addBreakpoint set address)⟩
  | removeBreakpoint set address =>
      exact ⟨rfl, same.mapDebugger (·.removeBreakpoint set address)⟩
  | enableDebugger enabled => exact ⟨rfl, same.mapDebugger ({ · with enabled })⟩
  | setStopped stopped => exact ⟨rfl, same.mapDebugger ({ · with stopped })⟩
  | reset => exact ⟨rfl, same.reset⟩

end SameReadable

/-- The outcomes of the ticks of a run. -/
def outcomes (console : Console) : List Operation → List StepOutcome
  | [] => []
  | first :: rest => first.outcomes console ++ (first.apply console).outcomes rest

/-- Whatever is done to both consoles, every tick has the same outcome and they stay alike in all
that can be read. -/
theorem SameReadable.run {a b : Console} (same : SameReadable a b)
    (operations : List Operation) :
    a.outcomes operations = b.outcomes operations ∧
      SameReadable (a.run operations) (b.run operations) := by
  induction operations generalizing a b with
  | nil => exact ⟨rfl, same⟩
  | cons first rest ih =>
      obtain ⟨outcomes, after⟩ := same.apply first
      obtain ⟨later, last⟩ := ih after
      refine ⟨?_, last⟩
      rw [Console.outcomes, Console.outcomes, outcomes, later]

/-- The registers that a program cannot read back cannot be observed. Whatever is done to two
consoles that differ at most in the bytes stored at these offsets, every tick has the same outcome,
and afterwards the registers of all modes, the clock, the debugger and the run state are the same,
every address is shown and loaded the same, every other stored byte is the same, and the consoles
still differ at most in these bytes. -/
theorem write_only_unobservable {a b : Console} (same : a.SameReadable b)
    (operations : List Operation) :
    let x := a.run operations
    let y := b.run operations
    a.outcomes operations = b.outcomes operations ∧
      (x.regs = y.regs ∧ ∀ mode r, x.regs.banked mode r = y.regs.banked mode r) ∧
      (x.clock = y.clock ∧ x.debugger = y.debugger ∧ x.runState = y.runState ∧
        x.retired = y.retired) ∧
      (∀ address, (x.bus.peekWord address = y.bus.peekWord address ∧
          x.bus.peekHalf address = y.bus.peekHalf address) ∧
        x.bus.loadWord address = y.bus.loadWord address ∧
        x.bus.loadHalf address = y.bus.loadHalf address) ∧
      (∀ (region : Region) (offset : Nat), ¬ (region = .io ∧ IoOffset.Unreadable offset) →
        x.bus.stored? region offset = y.bus.stored? region offset) ∧
      x.SameReadable y := by
  intro x y
  obtain ⟨outcomes, after⟩ := same.run operations
  have alike : x.bus.ReadAlike y.bus := after.machine.bus.read8
  have regs : x.regs = y.regs := after.machine.regs
  refine ⟨outcomes, ⟨regs, ?_⟩,
    ⟨after.clock, after.debugger, after.runState, after.retired⟩, ?_, ?_, after⟩
  · intro mode r
    rw [regs]
  · intro address
    exact ⟨⟨alike.peekWord address, alike.peekHalf address⟩, alike.loadWord address,
      alike.loadHalf address⟩
  · intro region offset readable
    exact after.machine.bus.stored? readable

/-- A scroll position and a mosaic that a cartridge has stored do not show, neither in its registers
nor in what it reads. -/
theorem scroll_and_mosaic_unobservable :
    let plain := powerOn .default
    let scrolled := plain.mapIo fun io => (io.storeByte 0x010 0xFF).storeByte 0x04C 0x11
    let operations : List Operation :=
      [.loadTestRom, .skipBios, .step, .setKey .a true, .tickMultiple 3]
    plain.SameReadable scrolled ∧ plain.io.readByte 0x010 ≠ scrolled.io.readByte 0x010 ∧
      plain.outcomes operations = scrolled.outcomes operations ∧
      (plain.run operations).SameReadable (scrolled.run operations) := by
  intro plain scrolled operations
  have same : plain.SameReadable scrolled := .of_io
    ((plain.io.sameReadable_storeByte (by decide) _).trans
      (IoRegisters.sameReadable_storeByte _ (by decide) _))
  have unobserved := write_only_unobservable same operations
  refine ⟨same, ?_, unobserved.1, unobserved.2.2.2.2.2⟩
  change IoRegisters.powerOn.readByte 0x010 ≠
    ((IoRegisters.powerOn.storeByte 0x010 0xFF).storeByte 0x04C 0x11).readByte 0x010
  decide +kernel

end Console

end Handheld
