import Handheld.Word

/-!
# Instruction sets

The processor executes two instruction sets, whose instructions are four and two bytes wide.
-/

namespace Handheld

/-- The instruction set in use. -/
inductive InstructionSet where
  | arm
  | thumb
  deriving DecidableEq, Repr

namespace InstructionSet

/-- Bytes of one instruction. -/
def width : InstructionSet → Word
  | arm => 4
  | thumb => 2

/-- The instruction address at or below `address`. -/
def align : InstructionSet → Word → Word
  | arm, address => address.alignWord
  | thumb, address => address.alignHalf

end InstructionSet

end Handheld
