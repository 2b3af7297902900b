import Handheld.Arm.Instruction

/-!
# Decoding ARM words

Every word has a meaning: `decode` reads the condition from the top four bits and the instruction
from the rest. Bits 25 to 27 select the group; the group of register operations shares its space
with multiplications, exchanges, halfword transfers and status transfers, which are told apart by
bits 4 to 7 and by operations that would only test without setting flags.
-/

namespace Handheld.Arm

/-- The register number in the four bits from `start`. -/
def registerAt (word : Word) (start : Nat) : RegNum := (word.extractLsb' start 4).toFin

/-- The shift amount of a register operand. -/
def shiftAmountOf (word : Word) : BitVec 5 := word.extractLsb' 7 5

/-- The shift of a register operand. -/
def shiftKindOf (word : Word) : ShiftKind := .ofBits (word.extractLsb' 5 2)

/-- The addressing bits of a transfer. -/
def Indexing.ofWord (word : Word) : Indexing where
  preIndex := word.getLsbD 24
  up := word.getLsbD 23
  writeBack := word.getLsbD 21

/-- A transfer to or from a status register: bit 21 tells a write from a read. -/
def decodeStatusTransfer (word : Word) (operand : StatusOperand) : Instruction :=
  let saved := word.getLsbD 22
  if word.getLsbD 21 then .msr saved (word.extractLsb' 16 4) operand
  else .mrs saved (registerAt word 12)

/-- A transfer of a halfword or a signed byte. Only unsigned halfwords can be stored. -/
def decodeHalfwordTransfer (word : Word) : Instruction :=
  let load := word.getLsbD 20
  let offset : HalfwordOffset :=
    if word.getLsbD 22 then .immediate (word.extractLsb' 8 4 ++ word.extractLsb' 0 4)
    else .register (registerAt word 0)
  let transfer (kind : HalfwordKind) : Instruction :=
    .halfwordTransfer load kind (Indexing.ofWord word) (registerAt word 16) (registerAt word 12)
      offset
  match word.extractLsb' 5 2 with
  | 0b01#2 => transfer .unsigned
  | 0b10#2 => if load then transfer .signedByte else .undefined
  | 0b11#2 => if load then transfer .signedHalfword else .undefined
  | _ => .undefined

/-- A data-processing instruction on a register. -/
def decodeRegisterOperation (word : Word) : Instruction :=
  let opcode := Opcode.ofBits (word.extractLsb' 21 4)
  let setFlags := word.getLsbD 20
  if opcode.isTest && !setFlags then decodeStatusTransfer word (.register (registerAt word 0))
  else
    let amount : ShiftAmount :=
      if word.getLsbD 4 then .register (registerAt word 8) else .immediate (shiftAmountOf word)
    .dataProcessing opcode setFlags (registerAt word 16) (registerAt word 12)
      (.register (registerAt word 0) (shiftKindOf word) amount)

/-- The group of register operations. -/
def decodeRegisterGroup (word : Word) : Instruction :=
  if word &&& 0x0FC000F0 = 0x00000090 then
    .multiply (word.getLsbD 21) (word.getLsbD 20) (registerAt word 16) (registerAt word 12)
      (registerAt word 8) (registerAt word 0)
  else if word &&& 0x0F8000F0 = 0x00800090 then
    .multiplyLong (word.getLsbD 22) (word.getLsbD 21) (word.getLsbD 20) (registerAt word 16)
      (registerAt word 12) (registerAt word 8) (registerAt word 0)
  else if word &&& 0x0FB00FF0 = 0x01000090 then
    .swap (word.getLsbD 22) (registerAt word 16) (registerAt word 12) (registerAt word 0)
  else if word.getLsbD 7 && word.getLsbD 4 then decodeHalfwordTransfer word
  else decodeRegisterOperation word

/-- The group of operations on a rotated immediate. -/
def decodeImmediateGroup (word : Word) : Instruction :=
  let rotate : BitVec 5 := word.extractLsb' 8 4 ++ 0#1
  let value := ((word.extractLsb' 0 8).setWidth 32).rotateRight rotate.toNat
  let opcode := Opcode.ofBits (word.extractLsb' 21 4)
  let setFlags := word.getLsbD 20
  if opcode.isTest && !setFlags then
    if word.getLsbD 21 then decodeStatusTransfer word (.immediate value) else .undefined
  else
    .dataProcessing opcode setFlags (registerAt word 16) (registerAt word 12)
      (.immediate value rotate)

/-- A transfer of one word or byte. -/
def decodeSingleTransfer (word : Word) (offset : TransferOffset) : Instruction :=
  .singleTransfer (word.getLsbD 20) (word.getLsbD 22) (Indexing.ofWord word) (registerAt word 16)
    (registerAt word 12) offset

/-- The instruction in a word. -/
def decodeInstruction (word : Word) : Instruction :=
  if word &&& 0x0FFFFFF0 = 0x012FFF10 then .branchExchange (registerAt word 0)
  else
    match word.extractLsb' 25 3 with
    | 0b000#3 => decodeRegisterGroup word
    | 0b001#3 => decodeImmediateGroup word
    | 0b010#3 => decodeSingleTransfer word (.immediate (word.extractLsb' 0 12))
    | 0b011#3 =>
      if word.getLsbD 4 then .undefined
      else
        decodeSingleTransfer word
          (.register (registerAt word 0) (shiftKindOf word) (shiftAmountOf word))
    | 0b100#3 =>
      .blockTransfer (word.getLsbD 20) (word.getLsbD 22) (Indexing.ofWord word)
        (registerAt word 16) (word.extractLsb' 0 16)
    | 0b101#3 =>
      .branch (word.getLsbD 24) ((word.extractLsb' 0 24 ++ 0b00#2).signExtend 32)
    | 0b110#3 => .coprocessor word
    | _ =>
      if word.getLsbD 24 then .softwareInterrupt (word.extractLsb' 0 24) else .coprocessor word

/-- The conditional instruction in a word. -/
def decode (word : Word) : Conditional where
  condition := .ofBits (word.extractLsb' 28 4)
  instruction := decodeInstruction word

end Handheld.Arm
