import Handheld.Arm.Text
import Handheld.Cpu.InstructionSet
import Handheld.Thumb.Text
import Handheld.Memory.Bus

/-!
# Disassembly

The text of the instructions around an address. All instructions of a set have one width, so the
rows of a window follow each other without gaps.
-/

namespace Handheld

/-- One disassembled instruction. -/
structure DisassemblyRow where
  address : Word
  /-- Bytes of the instruction. -/
  width : Nat
  /-- The instruction itself. -/
  raw : Word
  assembly : Assembly
  /-- Whether the instruction traps as undefined. -/
  isUndefined : Bool
  deriving DecidableEq, Repr

namespace DisassemblyRow

/-- The row of an ARM word. -/
def ofWord (address word : Word) : DisassemblyRow where
  address
  width := 4
  raw := word
  assembly := Arm.assembly word (some address)
  isUndefined := (Arm.decodeInstruction word).isUndefined

/-- The row of a Thumb halfword. -/
def ofHalf (address : Word) (half : Half) : DisassemblyRow where
  address
  width := 2
  raw := half.setWidth 32
  assembly := Thumb.assembly half (some address)
  isUndefined := (Thumb.decode half).isUndefined

/-- The row of the instruction at an address. -/
def ofAddress (bus : Bus) (set : InstructionSet) (address : Word) : DisassemblyRow :=
  match set with
  | .arm => ofWord address (bus.read32 address)
  | .thumb => ofHalf address (bus.read16 address)

/-- The rows of `count` instructions from an address on. -/
def rowsFrom (bus : Bus) (set : InstructionSet) (address : Word) : Nat → List DisassemblyRow
  | 0 => []
  | count + 1 => ofAddress bus set address :: rowsFrom bus set (address + set.width) count

end DisassemblyRow

/-- The greatest number of instructions a window reaches back. -/
def maxRowsBefore : Nat := 0xFFFFFFFF

/-- The rows around `center`: `before` instructions, the one at `center`, and `after` more. The
counts are added in the 64 bits of a machine size, so rows are missing when the sum wraps around. -/
def Bus.disassemble (bus : Bus) (set : InstructionSet) (center : Word) (before after : BitVec 64) :
    List DisassemblyRow :=
  let back := BitVec.ofNat 32 (min before.toNat maxRowsBefore) * set.width
  DisassemblyRow.rowsFrom bus set (set.align center - back) ((before + after).toNat + 1)

/-- The text of an ARM word whose address is not known. -/
def disassembleWord (word : Word) : String := (Arm.assembly word none).text

/-- The text of a Thumb halfword whose address is not known. -/
def disassembleHalf (half : Half) : String := (Thumb.assembly half none).text

end Handheld
