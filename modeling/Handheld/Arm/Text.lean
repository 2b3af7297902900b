import Handheld.Arm.Decode
import Handheld.Assembly.Operand

/-!
# The text of ARM instructions

A condition follows the operation, and the suffixes for flags, width and addressing follow the
condition. Unallocated words and coprocessor instructions are written as the bare word.
-/

namespace Handheld.Arm

open Assembly

/-- The name of a status register. -/
def statusName (saved : Bool) : String := if saved then "SPSR" else "CPSR"

/-- A shift by an immediate amount, after the register it applies to. -/
def shiftText (shift : ShiftKind) (amount : BitVec 5) : String :=
  if amount = 0 then
    match shift with
    | .lsl => ""
    | .ror => ", RRX"
    | .lsr | .asr => ", " ++ shift.mnemonic ++ " #32"
  else ", " ++ shift.mnemonic ++ " #" ++ toString amount.toNat

/-- The second operand of a data-processing instruction. -/
def Operand.text : Operand → String
  | immediate value _ => hexImmediate value.toNat
  | register rm shift (.immediate amount) => Assembly.register rm ++ shiftText shift amount
  | register rm shift (.register rs) =>
    Assembly.register rm ++ ", " ++ shift.mnemonic ++ " " ++ Assembly.register rs

/-- What is written to a status register. -/
def StatusOperand.text : StatusOperand → String
  | immediate value => hexImmediate value.toNat
  | register rm => Assembly.register rm

/-- The bytes of a status register that are written, the flags first. -/
def fieldsText (fields : BitVec 4) : String :=
  suffixIf (fields.getLsbD 3) "f" ++ suffixIf (fields.getLsbD 2) "s" ++
    suffixIf (fields.getLsbD 1) "x" ++ suffixIf (fields.getLsbD 0) "c"

namespace Indexing

/-- An immediate offset. A zero added before the transfer is left out. -/
def immediateText (indexing : Indexing) (value : Nat) : String :=
  if value = 0 && indexing.preIndex then ""
  else "#" ++ suffixIf (!indexing.up) "-" ++ Hex.text value

/-- A register offset. -/
def registerText (indexing : Indexing) (rm : RegNum) : String :=
  suffixIf (!indexing.up) "-" ++ register rm

/-- A base register with its offset. -/
def addressText (indexing : Indexing) (rn : RegNum) (offset : String) : String :=
  if !indexing.preIndex then "[" ++ register rn ++ "], " ++ offset
  else
    "[" ++ register rn ++ suffixIf (!offset.isEmpty) (", " ++ offset) ++ "]" ++
      suffixIf indexing.writeBack "!"

/-- How a block transfer walks through memory. -/
def blockSuffix (indexing : Indexing) : String :=
  match indexing.preIndex, indexing.up with
  | false, true => "IA"
  | true, true => "IB"
  | false, false => "DA"
  | true, false => "DB"

end Indexing

/-- The offset of a halfword transfer. -/
def HalfwordOffset.text (offset : HalfwordOffset) (indexing : Indexing) : String :=
  match offset with
  | immediate value => indexing.immediateText value.toNat
  | register rm => indexing.registerText rm

/-- The offset of a word or byte transfer. -/
def TransferOffset.text (offset : TransferOffset) (indexing : Indexing) : String :=
  match offset with
  | immediate value => indexing.immediateText value.toNat
  | register rm shift amount => indexing.registerText rm ++ shiftText shift amount

/-- The width suffix of a halfword transfer. -/
def HalfwordKind.suffix : HalfwordKind → String
  | unsigned => "H"
  | signedByte => "SB"
  | signedHalfword => "SH"

/-- Whether an instruction traps as undefined. -/
def Instruction.isUndefined : Instruction → Bool
  | coprocessor _ | undefined => true
  | _ => false

/-- The text of an instruction under a condition. `word` is the instruction itself, and `address?`
where it stands, if that is known. -/
def Instruction.assembly (instruction : Instruction) (condition : Condition) (word : Word)
    (address? : Option Word) : Assembly :=
  let cond := condition.suffix
  match instruction with
  | dataProcessing opcode setFlags rn rd operand =>
    let registers :=
      if opcode.isTest then [rn] else if opcode.isMove then [rd] else [rd, rn]
    { mnemonic := opcode.mnemonic ++ cond ++ suffixIf (setFlags && !opcode.isTest) "S"
      operands := commaSeparated (registers.map register ++ [operand.text]) }
  | mrs saved rd => ⟨"MRS" ++ cond, commaSeparated [register rd, statusName saved]⟩
  | msr saved fields operand =>
    ⟨"MSR" ++ cond, commaSeparated [statusName saved ++ "_" ++ fieldsText fields, operand.text]⟩
  | multiply accumulate setFlags rd rn rs rm =>
    let registers := if accumulate then [rd, rm, rs, rn] else [rd, rm, rs]
    { mnemonic := (if accumulate then "MLA" else "MUL") ++ cond ++ suffixIf setFlags "S"
      operands := commaSeparated (registers.map register) }
  | multiplyLong signed accumulate setFlags rdHigh rdLow rs rm =>
    let operation :=
      match signed, accumulate with
      | false, false => "UMULL"
      | false, true => "UMLAL"
      | true, false => "SMULL"
      | true, true => "SMLAL"
    { mnemonic := operation ++ cond ++ suffixIf setFlags "S"
      operands := commaSeparated ([rdLow, rdHigh, rm, rs].map register) }
  | swap byte rn rd rm =>
    { mnemonic := "SWP" ++ cond ++ suffixIf byte "B"
      operands := commaSeparated [register rd, register rm, "[" ++ register rn ++ "]"] }
  | branchExchange rm => ⟨"BX" ++ cond, register rm⟩
  | halfwordTransfer load kind indexing rn rd offset =>
    { mnemonic := transferName load ++ cond ++ kind.suffix
      operands :=
        commaSeparated [register rd, indexing.addressText rn (offset.text indexing)] }
  | singleTransfer load byte indexing rn rd offset =>
    { mnemonic := transferName load ++ cond ++ suffixIf byte "B"
      operands :=
        commaSeparated [register rd, indexing.addressText rn (offset.text indexing)] }
  | blockTransfer load userBank indexing rn registers =>
    { mnemonic := (if load then "LDM" else "STM") ++ cond ++ indexing.blockSuffix
      operands :=
        commaSeparated [register rn ++ suffixIf indexing.writeBack "!", registerList registers] ++
          suffixIf userBank "^" }
  | branch link offset =>
    { mnemonic := "B" ++ suffixIf link "L" ++ cond
      operands := branchTarget address? (offset + 8) }
  | softwareInterrupt comment => ⟨"SWI" ++ cond, hexImmediate comment.toNat⟩
  | coprocessor _ | undefined => ⟨"UND" ++ cond, "#" ++ Hex.fixedText 8 word.toNat⟩

/-- The text of a word. -/
def assembly (word : Word) (address? : Option Word) : Assembly :=
  let decoded := decode word
  decoded.instruction.assembly decoded.condition word address?

end Handheld.Arm
