import Handheld.Arm.Execute
import Handheld.Thumb.Execute

/-!
# One instruction

`Machine.step` fetches the instruction at `r15` in the current instruction set, moves `r15` on,
and executes the instruction if its condition passes. The outcome carries the address, the class
and the cycles.
-/

namespace Handheld

/-- What became of one instruction. -/
inductive ExecuteOutcome where
  /-- It was executed. -/
  | retired (pc : Word) (category : InstructionClass) (cycles : Nat)
  /-- Its condition failed. -/
  | skipped (pc : Word) (cycles : Nat)
  /-- It trapped. -/
  | trapped (pc : Word) (exception : Exception) (cycles : Nat)
  deriving DecidableEq, Repr

namespace ExecuteOutcome

/-- The cycles it took. -/
def cycles : ExecuteOutcome → Nat
  | retired _ _ cycles | skipped _ cycles | trapped _ _ cycles => cycles

/-- Its address. -/
def pc : ExecuteOutcome → Word
  | retired pc _ _ | skipped pc _ | trapped pc _ _ => pc

end ExecuteOutcome

namespace Machine

/-- The instruction at `r15`, in Thumb state. -/
def fetchHalf (m : Machine) : Half := m.bus.read16 m.regs.pc.alignHalf

/-- The instruction at `r15`, in ARM state. -/
def fetchWord (m : Machine) : Word := m.bus.read32 m.regs.pc.alignWord

/-- Moves `r15` on to the instruction after the fetched one. -/
def advance (m : Machine) (set : InstructionSet) : Machine :=
  m.mapRegs fun regs => regs.setPc (set.align regs.pc + set.width)

/-- Executes the Thumb instruction at `r15`. -/
def stepThumb (m : Machine) : ExecuteOutcome × Machine :=
  let pc := m.regs.pc
  let instruction := Thumb.decode m.fetchHalf
  let cycles := instruction.category.cycles
  let fetched := m.advance .thumb
  match instruction.trap? with
  | some e => (.trapped pc e cycles, fetched.mapRegs (·.enterException e))
  | none => (.retired pc instruction.category cycles, instruction.execute fetched)

/-- Executes the ARM instruction at `r15`. -/
def stepArm (m : Machine) : ExecuteOutcome × Machine :=
  let pc := m.regs.pc
  let decoded := Arm.decode m.fetchWord
  let instruction := decoded.instruction
  let cycles := instruction.category.cycles
  let fetched := m.advance .arm
  if !decoded.condition.passes fetched.regs.cpsr then (.skipped pc cycles, fetched)
  else
    match instruction.trap? with
    | some e => (.trapped pc e cycles, fetched.mapRegs (·.enterException e))
    | none => (.retired pc instruction.category cycles, instruction.execute fetched)

/-- Executes the instruction at `r15`. -/
def step (m : Machine) : ExecuteOutcome × Machine :=
  if m.regs.thumb then m.stepThumb else m.stepArm

end Machine

end Handheld
