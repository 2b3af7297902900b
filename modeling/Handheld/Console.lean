import Handheld.Assembly.Window
import Handheld.Cpu.RunState
import Handheld.Cpu.Step
import Handheld.Debug.Debugger
import Handheld.TestCartridge
import Handheld.Video.Clock
import Handheld.Video.Frame
import Handheld.Video.Picture

/-!
# The console

Processor, memory, video clock and debugger together. One tick wakes a halted processor if an
enabled interrupt is requested, takes a pending interrupt if interrupts are allowed, and otherwise
executes one instruction; then the clock moves on by the cycles of the tick and the debugger
follows. While the debugger holds execution a tick does nothing.
-/

namespace Handheld

/-- What a console is built with. -/
structure ConsoleConfig where
  /-- Whether breakpoints are checked and the history is kept. -/
  debuggerEnabled : Bool
  /-- How many executed addresses the history keeps. -/
  historyCapacity : Nat
  deriving DecidableEq, Repr

/-- The configuration unless another is asked for. -/
def ConsoleConfig.default : ConsoleConfig := ⟨true, Debugger.defaultCapacity⟩

/-- The whole console. -/
structure Console where
  machine : Machine
  runState : RunState
  clock : Clock
  debugger : Debugger
  config : ConsoleConfig
  /-- Instructions executed since power-on, skipped and trapping ones included. A tick executes at
  most one, so that 64 bits count them as long as they count the ticks. -/
  retired : Nat
  deriving DecidableEq

/-- What a tick did. -/
inductive StepOutcome where
  /-- An instruction was executed. -/
  | retired (pc : Word) (cycles : Nat)
  /-- The condition of an instruction failed. -/
  | skipped (pc : Word) (cycles : Nat)
  /-- An instruction trapped. -/
  | trapped (pc : Word) (exception : Exception) (cycles : Nat)
  /-- An interrupt was taken; the program goes on at `returnPc` afterwards. -/
  | interrupted (returnPc : Word) (cycles : Nat)
  /-- The processor is halted. -/
  | halted (cycles : Nat)
  /-- The debugger holds execution. -/
  | stopped
  deriving DecidableEq, Repr

namespace StepOutcome

/-- The outcome of a tick that executed an instruction. -/
def ofExecute : ExecuteOutcome → StepOutcome
  | .retired pc _ cycles => retired pc cycles
  | .skipped pc cycles => skipped pc cycles
  | .trapped pc exception cycles => trapped pc exception cycles

/-- The cycles a tick took. -/
def cycles : StepOutcome → Nat
  | retired _ cycles | skipped _ cycles | trapped _ _ cycles | interrupted _ cycles
  | halted cycles => cycles
  | stopped => 0

/-- The address of the instruction a tick executed. -/
def committedPc? : StepOutcome → Option Word
  | retired pc _ | skipped pc _ | trapped pc _ _ => some pc
  | interrupted .. | halted _ | stopped => none

end StepOutcome

namespace Console

/-- A console at power-on, with an empty game pak. -/
def powerOn (config : ConsoleConfig) : Console where
  machine := ⟨.powerOn, .powerOn⟩
  runState := .running
  clock := .powerOn
  debugger := .new config.debuggerEnabled config.historyCapacity
  config
  retired := 0

/-- Switches the console off and on. The debugger keeps its breakpoints and settings. -/
def reset (console : Console) : Console :=
  { powerOn console.config with debugger := console.debugger.carryOver }

/-! ## Parts -/

/-- The registers. -/
def regs (console : Console) : RegisterFile := console.machine.regs

/-- The bus. -/
def bus (console : Console) : Bus := console.machine.bus

/-- The peripheral registers. -/
def io (console : Console) : IoRegisters := console.bus.io

/-- The video state. -/
def video (console : Console) : VideoMemory := .ofBus console.bus

/-- Whether the processor waits for an interrupt. -/
def isHalted (console : Console) : Bool := console.runState == .halted

/-- Whether the debugger holds execution. -/
def isStopped (console : Console) : Bool := console.debugger.stopped

/-- The disassembly around the next instruction. -/
def disassemble (console : Console) (before after : BitVec 64) : List DisassemblyRow :=
  console.bus.disassemble console.regs.instructionSet console.regs.pc before after

/-! ## Changes from outside -/

/-- Changes the peripheral registers. -/
def mapIo (console : Console) (f : IoRegisters → IoRegisters) : Console :=
  match console with
  | ⟨⟨regs, bus⟩, runState, clock, debugger, config, retired⟩ =>
    ⟨⟨regs, { bus with io := f bus.io }⟩, runState, clock, debugger, config, retired⟩

/-- Puts an image into the game pak. -/
def loadRom (console : Console) (image : Array Byte) : Console :=
  match console with
  | ⟨⟨regs, bus⟩, runState, clock, debugger, config, retired⟩ =>
    ⟨⟨regs, bus.loadGamePak image⟩, runState, clock, debugger, config, retired⟩

/-- Puts the test cartridge into the game pak. -/
def loadTestRom (console : Console) : Console := console.loadRom TestCartridge.image

/-- The registers as the boot ROM leaves them: a stack for interrupts, for the supervisor and for
programs. -/
def bootedRegisters (regs : RegisterFile) : RegisterFile :=
  let masked (mode : Mode) : Word := Status.withMode (Status.irqMask ||| Status.fiqMask) mode
  let irq := (regs.setCpsr (masked .irq)).set .sp BootRom.irqStack
  let supervisor := (irq.setCpsr (masked .supervisor)).set .sp BootRom.supervisorStack
  let system := (supervisor.setCpsr BootRom.finalStatus).set .sp BootRom.systemStack
  (system.set .lr BootRom.cartridgeEntry).setPc BootRom.cartridgeEntry

/-- Goes to the state in which the boot ROM enters a cartridge, without running it. -/
def skipBios (console : Console) : Console :=
  { console with
    machine := console.machine.mapRegs bootedRegisters
    runState := .running
    debugger := console.debugger.setExecutingPc BootRom.cartridgeEntry }

/-- Presses or releases a key. -/
def setKey (console : Console) (key : Key) (pressed : Bool) : Console :=
  console.mapIo (·.setKey key pressed)

/-- Changes the debugger. -/
def mapDebugger (console : Console) (f : Debugger → Debugger) : Console :=
  { console with debugger := f console.debugger }

/-- Adds a breakpoint. -/
def addBreakpoint (console : Console) (set : InstructionSet) (address : Word) : Console :=
  console.mapDebugger (·.addBreakpoint set address)

/-- Removes a breakpoint. -/
def removeBreakpoint (console : Console) (set : InstructionSet) (address : Word) : Console :=
  console.mapDebugger (·.removeBreakpoint set address)

/-- Switches instrumentation on or off. -/
def enableDebugger (console : Console) (enabled : Bool) : Console :=
  console.mapDebugger ({ · with enabled })

/-- Holds execution or lets it go on. -/
def setStopped (console : Console) (stopped : Bool) : Console :=
  console.mapDebugger ({ · with stopped })

/-! ## Ticks -/

/-- Whether an interrupt is taken before the next instruction. -/
def takesInterrupt (machine : Machine) : Bool :=
  machine.bus.io.pendingInterrupts != 0 && machine.bus.io.masterEnable &&
    !machine.regs.flag Status.irqMask

/-- Takes an interrupt or executes an instruction. -/
def execute (machine : Machine) : StepOutcome × Machine :=
  if takesInterrupt machine then
    (.interrupted machine.regs.pc interruptEntryCycles,
      machine.mapRegs (·.enterException .irq))
  else
    let (outcome, next) := machine.step
    (.ofExecute outcome, next)

/-- A tick of a processor that is not halted. -/
def stepRunning (console : Console) : StepOutcome × Console :=
  match console with
  | ⟨machine, _, clock, debugger, config, retired⟩ =>
    -- An instruction counts as soon as it is begun, whatever becomes of it.
    let retired := if takesInterrupt machine then retired else retired + 1
    let (outcome, ⟨regs, bus⟩) := execute machine
    let runState := if bus.io.haltRequested then .halted else .running
    let scan := clock.advance bus.io.clearHaltRequest outcome.cycles
    let debugger := debugger.afterTick outcome.committedPc? regs.pc regs.instructionSet
    (outcome,
      ⟨⟨regs, { bus with io := scan.io }⟩, runState, scan.clock, debugger, config, retired⟩)

/-- A tick of a processor that stays halted. -/
def stepHalted (console : Console) : StepOutcome × Console :=
  match console with
  | ⟨⟨regs, bus⟩, runState, clock, debugger, config, retired⟩ =>
    let scan := clock.advance bus.io haltedCycles
    (.halted haltedCycles,
      ⟨⟨regs, { bus with io := scan.io }⟩, runState, scan.clock, debugger, config, retired⟩)

/-- One tick. -/
def step (console : Console) : StepOutcome × Console :=
  if console.isStopped then (.stopped, console)
  else
    match console.runState.wakeOn console.io.pendingInterrupts with
    | .halted => console.stepHalted
    | .running => console.stepRunning

/-- One tick, whatever it does. -/
def tick (console : Console) : Console := console.step.2

/-- A number of ticks, or as many as there are before the debugger holds execution. -/
def tickMultiple (console : Console) : Nat → Console
  | 0 => console
  | count + 1 => if console.isStopped then console else console.tick.tickMultiple count

/-! ## Views -/

/-- The state of the processor. -/
structure CpuSnapshot where
  /-- The registers of the current mode. -/
  registers : Vector Word 16
  pc : Word
  cpsr : Word
  spsr? : Option Word
  mode : Mode
  thumb : Bool
  halted : Bool
  interruptEnable : Half
  interruptFlags : Half
  retired : Nat
  deriving DecidableEq, Repr

/-- The state of the processor. -/
def inspectCpu (console : Console) : CpuSnapshot where
  registers := console.regs.visible
  pc := console.regs.pc
  cpsr := console.regs.cpsr
  spsr? := console.regs.spsr?
  mode := console.regs.mode
  thumb := console.regs.thumb
  halted := console.isHalted
  interruptEnable := console.io.interruptEnable
  interruptFlags := console.io.interruptFlags
  retired := console.retired

end Console

end Handheld
