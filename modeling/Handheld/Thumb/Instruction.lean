import Handheld.Cpu.Condition
import Handheld.Cpu.Cycles
import Handheld.Cpu.Shifter

/-!
# Thumb instructions

The abstract syntax of the 16-bit instruction set. Offsets are scaled to bytes, and unallocated
halfwords have an instruction of their own.
-/

namespace Handheld.Thumb

/-- Operation on two low registers. -/
inductive AluOp where
  | and
  | eor
  | lsl
  | lsr
  | asr
  | adc
  | sbc
  | ror
  | tst
  | neg
  | cmp
  | cmn
  | orr
  | mul
  | bic
  | mvn
  deriving DecidableEq, Repr

namespace AluOp

/-- The operation a four-bit field names. -/
def ofBits (field : BitVec 4) : AluOp :=
  match field with
  | 0x0#4 => and
  | 0x1#4 => eor
  | 0x2#4 => lsl
  | 0x3#4 => lsr
  | 0x4#4 => asr
  | 0x5#4 => adc
  | 0x6#4 => sbc
  | 0x7#4 => ror
  | 0x8#4 => tst
  | 0x9#4 => neg
  | 0xA#4 => cmp
  | 0xB#4 => cmn
  | 0xC#4 => orr
  | 0xD#4 => mul
  | 0xE#4 => bic
  | _ => mvn

/-- The name in assembly text. -/
def mnemonic : AluOp → String
  | and => "AND"
  | eor => "EOR"
  | lsl => "LSL"
  | lsr => "LSR"
  | asr => "ASR"
  | adc => "ADC"
  | sbc => "SBC"
  | ror => "ROR"
  | tst => "TST"
  | neg => "NEG"
  | cmp => "CMP"
  | cmn => "CMN"
  | orr => "ORR"
  | mul => "MUL"
  | bic => "BIC"
  | mvn => "MVN"

end AluOp

/-- The second operand of a three-operand addition or subtraction. -/
inductive SmallOperand where
  | register (rn : RegNum)
  | immediate (value : BitVec 3)
  deriving DecidableEq, Repr

/-- Operation on a low register and a byte. -/
inductive ImmediateOp where
  | mov
  | cmp
  | add
  | sub
  deriving DecidableEq, Repr

/-- The operation a two-bit field names. -/
def ImmediateOp.ofBits (field : BitVec 2) : ImmediateOp :=
  match field with
  | 0#2 => mov
  | 1#2 => cmp
  | 2#2 => add
  | _ => sub

/-- Operation on two of all sixteen registers. -/
inductive HiRegisterOp where
  | add
  | cmp
  | mov
  deriving DecidableEq, Repr

/-- Halfword and signed transfers at a register offset. -/
inductive SignedTransfer where
  | storeHalfword
  | loadHalfword
  | loadSignedByte
  | loadSignedHalfword
  deriving DecidableEq, Repr

/-- A Thumb instruction. -/
inductive Instruction where
  | moveShifted (shift : ShiftKind) (amount : BitVec 5) (rs rd : RegNum)
  | addSubtract (subtract : Bool) (operand : SmallOperand) (rs rd : RegNum)
  | immediate (op : ImmediateOp) (rd : RegNum) (value : Byte)
  | alu (op : AluOp) (rs rd : RegNum)
  | hiRegister (op : HiRegisterOp) (rs rd : RegNum)
  | branchExchange (rs : RegNum)
  | pcRelativeLoad (rd : RegNum) (offset : BitVec 10)
  | loadStoreRegister (load byte : Bool) (ro rb rd : RegNum)
  | loadStoreSigned (op : SignedTransfer) (ro rb rd : RegNum)
  | loadStoreImmediate (load byte : Bool) (offset : BitVec 7) (rb rd : RegNum)
  | loadStoreHalfword (load : Bool) (offset : BitVec 6) (rb rd : RegNum)
  | spRelative (load : Bool) (rd : RegNum) (offset : BitVec 10)
  /-- The sum of `sp` or `pc` and an offset. -/
  | loadAddress (fromSp : Bool) (rd : RegNum) (offset : BitVec 10)
  /-- Moves the stack pointer by a signed offset. -/
  | adjustStack (offset : Word)
  /-- With `link`, a push also stores `lr` and a pop also loads `pc`. -/
  | pushPop (pop link : Bool) (registers : Byte)
  | multipleTransfer (load : Bool) (rb : RegNum) (registers : Byte)
  | conditionalBranch (condition : Condition) (offset : Word)
  | softwareInterrupt (comment : Byte)
  | branch (offset : Word)
  /-- The first half of a call: the upper part of the offset goes to `lr`. -/
  | longBranchHigh (offset : Word)
  /-- The second half of a call: the lower part of the offset completes the target. -/
  | longBranchLow (offset : BitVec 12)
  | undefined
  deriving DecidableEq, Repr

/-- The class an instruction is charged as. -/
def Instruction.category : Instruction → InstructionClass
  | moveShifted .. | addSubtract .. | immediate .. | hiRegister .. | loadAddress ..
  | adjustStack .. => .dataProcessing
  | alu op .. => if op = .mul then .multiply else .dataProcessing
  | branchExchange .. => .branchExchange
  | pcRelativeLoad .. => .load
  | loadStoreSigned op .. => if op = .storeHalfword then .store else .load
  | loadStoreRegister load .. | loadStoreImmediate load .. | loadStoreHalfword load ..
  | spRelative load .. => if load then .load else .store
  | pushPop load .. | multipleTransfer load .. => if load then .loadMultiple else .storeMultiple
  | conditionalBranch .. | branch .. | longBranchHigh .. | longBranchLow .. => .branch
  | softwareInterrupt .. => .softwareInterrupt
  | undefined => .undefined

end Handheld.Thumb
