import Handheld.Cpu.Condition
import Handheld.Cpu.Cycles
import Handheld.Cpu.Shifter

/-!
# ARM instructions

The abstract syntax of the 32-bit instruction set. Offsets are in bytes, immediates are already
rotated, and unallocated words have an instruction of their own.
-/

namespace Handheld.Arm

/-- Data-processing operation. -/
inductive Opcode where
  | and
  | eor
  | sub
  | rsb
  | add
  | adc
  | sbc
  | rsc
  | tst
  | teq
  | cmp
  | cmn
  | orr
  | mov
  | bic
  | mvn
  deriving DecidableEq, Repr

namespace Opcode

/-- The operation a four-bit field names. -/
def ofBits (field : BitVec 4) : Opcode :=
  match field with
  | 0x0#4 => and
  | 0x1#4 => eor
  | 0x2#4 => sub
  | 0x3#4 => rsb
  | 0x4#4 => add
  | 0x5#4 => adc
  | 0x6#4 => sbc
  | 0x7#4 => rsc
  | 0x8#4 => tst
  | 0x9#4 => teq
  | 0xA#4 => cmp
  | 0xB#4 => cmn
  | 0xC#4 => orr
  | 0xD#4 => mov
  | 0xE#4 => bic
  | _ => mvn

/-- Tests only change the flags. -/
def isTest : Opcode → Bool
  | tst | teq | cmp | cmn => true
  | _ => false

/-- Logical operations take their carry from the shifter. -/
def isLogical : Opcode → Bool
  | and | eor | tst | teq | orr | mov | bic | mvn => true
  | _ => false

/-- Moves have no first operand. -/
def isMove : Opcode → Bool
  | mov | mvn => true
  | _ => false

/-- The name in assembly text. -/
def mnemonic : Opcode → String
  | and => "AND"
  | eor => "EOR"
  | sub => "SUB"
  | rsb => "RSB"
  | add => "ADD"
  | adc => "ADC"
  | sbc => "SBC"
  | rsc => "RSC"
  | tst => "TST"
  | teq => "TEQ"
  | cmp => "CMP"
  | cmn => "CMN"
  | orr => "ORR"
  | mov => "MOV"
  | bic => "BIC"
  | mvn => "MVN"

end Opcode

/-- Where the amount of a shift comes from. -/
inductive ShiftAmount where
  | immediate (amount : BitVec 5)
  | register (rs : RegNum)
  deriving DecidableEq, Repr

/-- The second operand of a data-processing instruction. -/
inductive Operand where
  /-- A byte rotated right by `rotate` bits. -/
  | immediate (value : Word) (rotate : BitVec 5)
  /-- A register through the shifter. -/
  | register (rm : RegNum) (shift : ShiftKind) (amount : ShiftAmount)
  deriving DecidableEq, Repr

/-- What is written to a status register. -/
inductive StatusOperand where
  | immediate (value : Word)
  | register (rm : RegNum)
  deriving DecidableEq, Repr

/-- What a halfword transfer moves. -/
inductive HalfwordKind where
  | unsigned
  | signedByte
  | signedHalfword
  deriving DecidableEq, Repr

/-- The offset of a halfword transfer. -/
inductive HalfwordOffset where
  | immediate (value : Byte)
  | register (rm : RegNum)
  deriving DecidableEq, Repr

/-- The offset of a word or byte transfer. -/
inductive TransferOffset where
  | immediate (value : BitVec 12)
  | register (rm : RegNum) (shift : ShiftKind) (amount : BitVec 5)
  deriving DecidableEq, Repr

/-- How a transfer uses its base register. -/
structure Indexing where
  /-- The offset applies before the transfer. -/
  preIndex : Bool
  /-- The offset is added. -/
  up : Bool
  /-- The base takes the final address. -/
  writeBack : Bool
  deriving DecidableEq, Repr

/-- An ARM instruction, its condition aside. -/
inductive Instruction where
  | dataProcessing (opcode : Opcode) (setFlags : Bool) (rn rd : RegNum) (operand : Operand)
  /-- Read of a status register. -/
  | mrs (saved : Bool) (rd : RegNum)
  /-- Write of the bytes of a status register that `fields` selects, lowest bit first. -/
  | msr (saved : Bool) (fields : BitVec 4) (operand : StatusOperand)
  | multiply (accumulate setFlags : Bool) (rd rn rs rm : RegNum)
  | multiplyLong (signed accumulate setFlags : Bool) (rdHigh rdLow rs rm : RegNum)
  | swap (byte : Bool) (rn rd rm : RegNum)
  | branchExchange (rm : RegNum)
  | halfwordTransfer (load : Bool) (kind : HalfwordKind) (indexing : Indexing) (rn rd : RegNum)
      (offset : HalfwordOffset)
  | singleTransfer (load byte : Bool) (indexing : Indexing) (rn rd : RegNum)
      (offset : TransferOffset)
  /-- Bit `i` of `registers` lists register `i`. With `userBank` the registers are those of User
  mode, or a load that lists `r15` also restores the status. -/
  | blockTransfer (load userBank : Bool) (indexing : Indexing) (rn : RegNum) (registers : Half)
  /-- The offset counts from two instructions ahead. -/
  | branch (link : Bool) (offset : Word)
  | softwareInterrupt (comment : BitVec 24)
  | coprocessor (word : Word)
  | undefined
  deriving DecidableEq, Repr

/-- An instruction and the condition it is executed under. -/
structure Conditional where
  condition : Condition
  instruction : Instruction
  deriving DecidableEq, Repr

/-- The class an instruction is charged as. -/
def Instruction.category : Instruction → InstructionClass
  | dataProcessing .. => .dataProcessing
  | mrs .. | msr .. => .psrTransfer
  | multiply .. => .multiply
  | multiplyLong .. => .multiplyLong
  | swap .. => .swap
  | branchExchange .. => .branchExchange
  | halfwordTransfer load .. => if load then .load else .store
  | singleTransfer load .. => if load then .load else .store
  | blockTransfer load .. => if load then .loadMultiple else .storeMultiple
  | branch .. => .branch
  | softwareInterrupt .. => .softwareInterrupt
  | coprocessor .. => .coprocessor
  | undefined => .undefined

end Handheld.Arm
