import Handheld.Cpu.Flags
import Handheld.Memory.Bus

/-!
# What an instruction works on

The registers and the bus, and the accesses to both that the two instruction sets share.
-/

namespace Handheld

/-- The state an instruction reads and changes. -/
structure Machine where
  regs : RegisterFile
  bus : Bus
  deriving DecidableEq

namespace Machine

/-- Changes the registers. -/
def mapRegs (m : Machine) (f : RegisterFile → RegisterFile) : Machine :=
  { m with regs := f m.regs }

/-- Writes a register as an instruction does. -/
def assign (m : Machine) (r : RegNum) (value : Word) : Machine := m.mapRegs (·.assign r value)

/-- Writes the word that holds an address. -/
def storeWord (m : Machine) (address value : Word) : Machine :=
  { m with bus := m.bus.write32 address value }

/-- Writes the low halfword of a value to the halfword that holds an address. -/
def storeHalf (m : Machine) (address value : Word) : Machine :=
  { m with bus := m.bus.write16 address value.lowHalf }

/-- Writes the low byte of a value. -/
def storeByte (m : Machine) (address value : Word) : Machine :=
  { m with bus := m.bus.write8 address value.lowByte }

/-- Writes words one after the other. -/
def storeWords (m : Machine) (writes : List (Word × Word)) : Machine :=
  { m with bus := writes.foldl (fun bus (address, value) => bus.write32 address value) m.bus }

/-- Loads a byte or a word. -/
def loadUnit (m : Machine) (byte : Bool) (address : Word) : Word :=
  if byte then m.bus.loadByte address else m.bus.loadWord address

/-- Stores a byte or a word. -/
def storeUnit (m : Machine) (byte : Bool) (address value : Word) : Machine :=
  if byte then m.storeByte address value else m.storeWord address value

end Machine

/-- Puts a final address into a base register. The program counter is never written back. -/
def RegisterFile.writeBack (regs : RegisterFile) (rn : RegNum) (address : Word) : RegisterFile :=
  if rn = .pc then regs else regs.set rn address

/-- The registers of a list, lowest first. -/
def listedRegisters (registers : Half) : List RegNum :=
  (List.finRange 16).filter fun r => registers.getLsbD r.val

/-- The addresses of consecutive words, paired with the registers they are transferred to or
from. -/
def transferSlots (start : Word) : List RegNum → List (Word × RegNum)
  | [] => []
  | r :: rest => (start, r) :: transferSlots (start + 4) rest

end Handheld
