import Handheld.Thumb.Decode
import Handheld.Assembly.Operand

/-!
# The text of Thumb instructions

Unallocated halfwords are written as data. The halves of a call are written one by one, each with
its part of the offset.
-/

namespace Handheld.Thumb

open Assembly

/-- The name in assembly text. -/
def ImmediateOp.mnemonic : ImmediateOp → String
  | mov => "MOV"
  | cmp => "CMP"
  | add => "ADD"
  | sub => "SUB"

/-- The name in assembly text. -/
def HiRegisterOp.mnemonic : HiRegisterOp → String
  | add => "ADD"
  | cmp => "CMP"
  | mov => "MOV"

/-- The name in assembly text. -/
def SignedTransfer.mnemonic : SignedTransfer → String
  | storeHalfword => "STRH"
  | loadHalfword => "LDRH"
  | loadSignedByte => "LDRSB"
  | loadSignedHalfword => "LDRSH"

/-- The second operand of a three-operand addition or subtraction. -/
def SmallOperand.text : SmallOperand → String
  | register rn => Assembly.register rn
  | immediate value => "#" ++ toString value.toNat

/-- Registers of a transfer and a byte offset from a base in brackets. -/
def transferText (rd : RegNum) (base offset : String) : String :=
  commaSeparated [register rd, "[" ++ commaSeparated [base, offset] ++ "]"]

/-- Whether an instruction traps as undefined. -/
def Instruction.isUndefined (instruction : Instruction) : Bool := instruction == .undefined

/-- The text of an instruction. `half` is the instruction itself, and `address?` where it stands,
if that is known. -/
def Instruction.assembly (instruction : Instruction) (half : Half) (address? : Option Word) :
    Assembly :=
  match instruction with
  | moveShifted shift amount rs rd =>
    let places := if amount = 0 && shift != .lsl then 32 else amount.toNat
    ⟨shift.mnemonic, commaSeparated [register rd, register rs, "#" ++ toString places]⟩
  | addSubtract subtract operand rs rd =>
    { mnemonic := if subtract then "SUB" else "ADD"
      operands := commaSeparated [register rd, register rs, operand.text] }
  | immediate op rd value =>
    ⟨op.mnemonic, commaSeparated [register rd, hexImmediate value.toNat]⟩
  | alu op rs rd => ⟨op.mnemonic, commaSeparated [register rd, register rs]⟩
  | hiRegister op rs rd => ⟨op.mnemonic, commaSeparated [register rd, register rs]⟩
  | branchExchange rs => ⟨"BX", register rs⟩
  | pcRelativeLoad rd offset => ⟨"LDR", transferText rd "pc" (hexImmediate offset.toNat)⟩
  | loadStoreRegister load byte ro rb rd =>
    ⟨transferName load ++ suffixIf byte "B", transferText rd (register rb) (register ro)⟩
  | loadStoreSigned op ro rb rd =>
    ⟨op.mnemonic, transferText rd (register rb) (register ro)⟩
  | loadStoreImmediate load byte offset rb rd =>
    { mnemonic := transferName load ++ suffixIf byte "B"
      operands := transferText rd (register rb) (hexImmediate offset.toNat) }
  | loadStoreHalfword load offset rb rd =>
    ⟨transferName load ++ "H", transferText rd (register rb) (hexImmediate offset.toNat)⟩
  | spRelative load rd offset =>
    ⟨transferName load, transferText rd "sp" (hexImmediate offset.toNat)⟩
  | loadAddress fromSp rd offset =>
    let base := if fromSp then "sp" else "pc"
    ⟨"ADD", commaSeparated [register rd, base, hexImmediate offset.toNat]⟩
  | adjustStack offset => ⟨"ADD", commaSeparated ["sp", "#" ++ Hex.signedText offset]⟩
  | pushPop pop link registers =>
    let linked : Half := if !link then 0 else if pop then 0x8000 else 0x4000
    { mnemonic := if pop then "POP" else "PUSH"
      operands := registerList (registers.setWidth 16 ||| linked) }
  | multipleTransfer load rb registers =>
    { mnemonic := if load then "LDMIA" else "STMIA"
      operands := commaSeparated [register rb ++ "!", registerList (registers.setWidth 16)] }
  | conditionalBranch condition offset =>
    ⟨"B" ++ condition.suffix, branchTarget address? (offset + 4)⟩
  | softwareInterrupt comment => ⟨"SWI", hexImmediate comment.toNat⟩
  | branch offset => ⟨"B", branchTarget address? (offset + 4)⟩
  | longBranchHigh offset => ⟨"BL", "hi #" ++ Hex.signedText offset⟩
  | longBranchLow offset => ⟨"BL", "lo " ++ hexImmediate offset.toNat⟩
  | undefined => ⟨".hword", Hex.fixedText 4 half.toNat⟩

/-- The text of a halfword. -/
def assembly (half : Half) (address? : Option Word) : Assembly :=
  (decode half).assembly half address?

end Handheld.Thumb
