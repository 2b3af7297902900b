import Handheld.Proofs.Console.Operation
import Handheld.Proofs.Cpu.Step
import Handheld.Proofs.Video.Clock

/-!
# The processor between two ticks

Between two ticks the status names a mode, `r15` is aligned, the debugger points at `r15` and no
request for low power is waiting (`Console.Consistent`). `Console.consistent_reachable` shows it of
every console that can be reached, and `Console.processor_between_ticks` spells it out.
-/

namespace Handheld

/-- After a tick the debugger shows the address of the next instruction, attached or not. -/
@[simp] theorem Debugger.executingPc_afterTick (debugger : Debugger) (committed? : Option Word)
    (next : Word) (set : InstructionSet) :
    (debugger.afterTick committed? next set).executingPc = next := by
  unfold afterTick
  dsimp only
  split
  · unfold record
    split <;> rfl
  · rfl

/-- Setting and removing breakpoints leaves the address that is shown alone, in both sets. -/
@[simp] theorem Debugger.executingPc_modifyBreakpoints (debugger : Debugger)
    (set : InstructionSet) (f : Breakpoints → Breakpoints) :
    (debugger.modifyBreakpoints set f).executingPc = debugger.executingPc := by
  cases set <;> rfl

namespace Console

/-- The state of the processor between two ticks. -/
structure Consistent (console : Console) : Prop where
  wellFormed : console.regs.WellFormed
  executingPc : console.debugger.executingPc = console.regs.pc
  noHaltRequest : console.io.haltRequested = false

open RegisterFile

/-- The registers that boot leaves behind are those of System mode at the entry of the cartridge, in
ARM state and aligned. -/
theorem wellFormed_bootedRegisters (regs : RegisterFile) :
    (bootedRegisters regs).WellFormed := by
  have status : (bootedRegisters regs).cpsr = Status.withMode BootRom.finalStatus .system := rfl
  have arm : (bootedRegisters regs).instructionSet = .arm := by
    rw [instructionSet, thumb, flag, status]
    rfl
  have entry : (bootedRegisters regs).pc = BootRom.cartridgeEntry := pc_setPc _ _
  refine ⟨namesMode_withMode status, ?_⟩
  rw [arm, entry]
  rfl

/-- Taking an interrupt or executing an instruction keeps the registers well formed. -/
theorem wellFormed_executeTick {machine : Machine} (wellFormed : machine.regs.WellFormed) :
    (execute machine).2.regs.WellFormed := by
  unfold execute
  split
  · exact wellFormed_enterException machine.regs .irq
  · exact Machine.wellFormed_step wellFormed

/-- Taking an interrupt or executing an instruction changes the bus by byte writes only. -/
theorem written_executeTick (machine : Machine) :
    Bus.Written machine.bus (execute machine).2.bus := by
  unfold execute
  split
  · exact .unchanged
  · exact machine.written_step

/-- What neither programs nor the peripherals can change of the bus, no tick changes. The boot ROM
and the Game Pak are of this kind. -/
theorem bus_view_tick {α : Type} (view : Bus → α)
    (programs : ∀ {start bus : Bus}, Bus.Written start bus → view bus = view start)
    (peripherals : ∀ (bus : Bus) (io : IoRegisters), view { bus with io } = view bus)
    (console : Console) : view console.tick.bus = view console.bus := by
  unfold tick step
  split
  · rfl
  · split
    · exact peripherals console.bus _
    · exact (peripherals (execute console.machine).2.bus _).trans
        (programs (written_executeTick console.machine))

/-- A tick that executes keeps the console consistent. If the instruction asked for low power, the
tick has put the processor to sleep and cleared the request. -/
theorem Consistent.stepRunning {console : Console} (consistent : console.Consistent) :
    console.stepRunning.2.Consistent where
  wellFormed := wellFormed_executeTick consistent.wellFormed
  executingPc := Debugger.executingPc_afterTick _ _ _ _
  noHaltRequest := Clock.haltRequested_advance _ _ _

/-- Sleep makes no request for low power. -/
theorem Consistent.stepHalted {console : Console} (consistent : console.Consistent) :
    console.stepHalted.2.Consistent where
  wellFormed := consistent.wellFormed
  executingPc := consistent.executingPc
  noHaltRequest := (Clock.haltRequested_advance _ _ _).trans consistent.noHaltRequest

/-- So every tick keeps the console consistent. -/
theorem Consistent.tick {console : Console} (consistent : console.Consistent) :
    console.tick.Consistent := by
  unfold Console.tick step
  split
  · exact consistent
  · split
    · exact consistent.stepHalted
    · exact consistent.stepRunning

/-- A key event makes no request for low power. -/
theorem haltRequested_setKey (io : IoRegisters) (key : Key) (pressed : Bool) :
    (io.setKey key pressed).haltRequested = io.haltRequested :=
  IoRegisters.haltRequested_requestIf _ _ _

/-- The processor starts at the reset vector. -/
theorem pc_powerOn : RegisterFile.powerOn.pc = 0 := by
  decide

/-- It starts with a register file that is well formed. -/
theorem wellFormed_powerOn : RegisterFile.powerOn.WellFormed := by
  have supervisor : Mode.ofBits? (Status.modeField RegisterFile.powerOn.cpsr) =
      some .supervisor := by decide
  exact ⟨namesMode_of_some supervisor, by decide⟩

/-- At power-on the processor is consistent, whatever debugger it is watched with and whatever Game
Pak it has. -/
theorem consistent_of_powerOn {console : Console} (regs : console.regs = .powerOn)
    (executingPc : console.debugger.executingPc = 0) (io : console.io = .powerOn) :
    console.Consistent where
  wellFormed := by
    rw [regs]
    exact wellFormed_powerOn
  executingPc := by rw [executingPc, regs, pc_powerOn]
  noHaltRequest := by
    rw [io]
    rfl

/-- Every operation keeps the processor consistent. Ticks are split by what the processor does in
them, and the others set the parts that belong together at once. -/
theorem consistent_invariant : OperationInvariant Consistent where
  powerOn _ := consistent_of_powerOn rfl rfl rfl
  loadRom _ _ consistent :=
    ⟨consistent.wellFormed, consistent.executingPc, consistent.noHaltRequest⟩
  skipBios _ consistent :=
    ⟨wellFormed_bootedRegisters _, (pc_setPc _ _).symm, consistent.noHaltRequest⟩
  tick _ consistent := consistent.tick
  setKey _ key pressed consistent :=
    ⟨consistent.wellFormed, consistent.executingPc,
      (haltRequested_setKey _ key pressed).trans consistent.noHaltRequest⟩
  addBreakpoint _ set _ consistent :=
    ⟨consistent.wellFormed,
      (Debugger.executingPc_modifyBreakpoints _ set _).trans consistent.executingPc,
      consistent.noHaltRequest⟩
  removeBreakpoint _ set _ consistent :=
    ⟨consistent.wellFormed,
      (Debugger.executingPc_modifyBreakpoints _ set _).trans consistent.executingPc,
      consistent.noHaltRequest⟩
  enableDebugger _ _ consistent :=
    ⟨consistent.wellFormed, consistent.executingPc, consistent.noHaltRequest⟩
  setStopped _ _ consistent :=
    ⟨consistent.wellFormed, consistent.executingPc, consistent.noHaltRequest⟩
  reset _ _ := consistent_of_powerOn rfl rfl rfl

/-- Every console that can be reached is consistent. -/
theorem consistent_reachable {console : Console} (reachable : console.Reachable) :
    console.Consistent :=
  consistent_invariant.reachable reachable

/-! ## The address of the executed instruction -/

/-- Whatever the processor executes has an address that it was fetched from. -/
theorem committedPc?_ofExecute (outcome : ExecuteOutcome) :
    (StepOutcome.ofExecute outcome).committedPc? = some outcome.pc := by
  cases outcome <;> rfl

/-- This address is the program counter before the tick, whether the instruction was executed,
skipped, or trapped, or an interrupt was taken in its place. -/
theorem pc_of_committed_execute {machine : Machine} {pc : Word}
    (committed : (execute machine).1.committedPc? = some pc) : pc = machine.regs.pc := by
  unfold execute at committed
  split at committed
  · cases committed
  · rw [committedPc?_ofExecute, machine.pc_step] at committed
    exact (Option.some.inj committed).symm

/-- The address in the outcome of a tick is what `r15` held before the tick. -/
theorem pc_of_committed {console : Console} {pc : Word}
    (committed : console.step.1.committedPc? = some pc) : pc = console.regs.pc := by
  unfold step at committed
  split at committed
  · cases committed
  · split at committed
    · cases committed
    · exact pc_of_committed_execute committed

/-- Whatever is done to a console from power-on on, between two ticks its status names a mode,
`r15` is even in Thumb state and a multiple of four in ARM state, the debugger points at `r15`,
and no request for low power is waiting; and an outcome that carries the address of an instruction
carries the address it was fetched from. -/
theorem processor_between_ticks (config : ConsoleConfig) (operations : List Operation) :
    let console := (powerOn config).run operations
    (∃ mode : Mode, Status.modeField console.regs.cpsr = mode.bits) ∧
      (console.regs.thumb = true → console.regs.pc.toNat % 2 = 0) ∧
      (console.regs.thumb = false → console.regs.pc.toNat % 4 = 0) ∧
      (∀ pc, console.step.1.committedPc? = some pc → pc = console.machine.fetchAddress) ∧
      console.debugger.executingPc = console.regs.pc ∧
      console.io.haltRequested = false := by
  intro console
  have consistent : console.Consistent := consistent_reachable ⟨config, operations, rfl⟩
  have aligned := consistent.wellFormed.aligned
  refine ⟨⟨_, Mode.ofBits?_eq_some consistent.wellFormed.namesMode⟩, ?_, ?_, ?_,
    consistent.executingPc, consistent.noHaltRequest⟩
  · intro thumb
    rw [InstructionSet.align_eq_self_iff, instructionSet, if_pos thumb] at aligned
    exact aligned
  · intro arm
    rw [InstructionSet.align_eq_self_iff, instructionSet, arm, if_neg Bool.false_ne_true] at aligned
    exact aligned
  · intro pc committed
    rw [pc_of_committed committed]
    exact aligned.symm

end Console

end Handheld
