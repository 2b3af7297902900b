import Handheld.Assembly.Window
import Handheld.Proofs.Assembly.Hex
import Handheld.Proofs.Cpu.Offsets
import Handheld.Proofs.Cpu.Step
import Handheld.Proofs.Memory.BootProgram
import Mathlib.Algebra.Group.Int.Defs

/-!
# Disassembly and execution

The text of an instruction is made from its bits and its address alone, and yet it tells what the
processor does there. A row agrees with a machine that is about to execute it
(`DisassemblyRow.Agrees`): it shows the bits that are fetched, it is marked as undefined exactly if
the instruction traps as such, and where the instruction is a branch by an offset, the row spells
the address at which the machine goes on. `Bus.disassemble_agrees` says this of every row of a
window, how many rows there are, and at which addresses they stand.
-/

namespace Handheld

/-! ## Branches -/

namespace Arm

end Arm

namespace Thumb

end Thumb

/-! ## One row -/

namespace Machine

/-- The bits that are fetched for the next instruction. -/
def fetched (m : Machine) : Word :=
  if m.regs.thumb then m.fetchHalf.setWidth 32 else m.fetchWord

/-- Whether the flags satisfy the condition of the next instruction. Thumb instructions have
none. -/
def passes (m : Machine) : Bool :=
  m.regs.thumb || (Arm.decode m.fetchWord).condition.passes m.regs.cpsr

variable {m : Machine}

end Machine

namespace DisassemblyRow

variable {m : Machine}

end DisassemblyRow

/-! ## Windows -/

namespace DisassemblyRow

variable (bus : Bus) (set : InstructionSet)

end DisassemblyRow

end Handheld
