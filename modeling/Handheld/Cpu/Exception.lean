import Handheld.Cpu.RegisterFile

/-!
# Exceptions

What suspends a program: where the processor continues, in which mode, which interrupts it masks,
and what it leaves in the link register for the way back.
-/

namespace Handheld

/-- A processor exception. -/
inductive Exception where
  /-- Power-on or external reset. -/
  | reset
  /-- A data access failed. -/
  | dataAbort
  /-- Fast interrupt request. -/
  | fiq
  /-- Interrupt request. -/
  | irq
  /-- An instruction fetch failed. -/
  | prefetchAbort
  /-- An undefined or coprocessor instruction. -/
  | undefinedInstruction
  /-- A software interrupt instruction. -/
  | softwareInterrupt
  deriving DecidableEq, Repr

namespace Exception

/-- Every exception, the most urgent first. -/
def all : List Exception :=
  [reset, dataAbort, fiq, irq, prefetchAbort, undefinedInstruction, softwareInterrupt]

/-- The address the processor continues at. -/
def vector : Exception → Word
  | reset => 0x00
  | undefinedInstruction => 0x04
  | softwareInterrupt => 0x08
  | prefetchAbort => 0x0C
  | dataAbort => 0x10
  | irq => 0x18
  | fiq => 0x1C

/-- The mode the processor continues in. -/
def targetMode : Exception → Mode
  | reset | softwareInterrupt => .supervisor
  | undefinedInstruction => .undefined
  | prefetchAbort | dataAbort => .abort
  | irq => .irq
  | fiq => .fiq

/-- Whether fast interrupts are masked too. -/
def masksFiq : Exception → Bool
  | reset | fiq => true
  | _ => false

/-- How far past the next instruction the link register points. A handler returns with
`SUBS pc, lr` by this offset, or with `MOVS pc, lr` when it is zero. -/
def linkOffset : Exception → Word
  | reset | undefinedInstruction | softwareInterrupt => 0
  | irq | fiq | prefetchAbort | dataAbort => 4

end Exception

/-- Takes an exception: the status goes to the saved status of the target mode, the return address
to its link register, and the processor continues at the vector in ARM state with interrupts
masked. -/
def RegisterFile.enterException (regs : RegisterFile) (e : Exception) : RegisterFile :=
  let banked := (regs.switchMode e.targetMode).setSpsr regs.cpsr
  let linked := banked.set .lr (regs.pc + e.linkOffset)
  let masked := (linked.setThumb false).setFlag Status.irqMask true
  let masked := if e.masksFiq then masked.setFlag Status.fiqMask true else masked
  masked.setPc e.vector

end Handheld
