import Handheld.Thumb.Instruction

/-!
# Decoding Thumb halfwords

Every halfword has a meaning. The top three bits select the group, further bits the format within
it.
-/

namespace Handheld.Thumb

/-- The low register number in the three bits from `start`. -/
def lowRegisterAt (half : Half) (start : Nat) : RegNum :=
  ((half.extractLsb' start 3).setWidth 4).toFin

/-- A register number whose top bit stands apart from the three bits from `start`. -/
def registerAt (half : Half) (top start : Nat) : RegNum :=
  (BitVec.ofBool (half.getLsbD top) ++ half.extractLsb' start 3).toFin

/-- A byte counted in words. -/
def wordOffset (half : Half) : BitVec 10 := half.extractLsb' 0 8 ++ 0b00#2

/-- Shifts by an immediate, and additions and subtractions with three operands. -/
def decodeShiftGroup (half : Half) : Instruction :=
  let rs := lowRegisterAt half 3
  let rd := lowRegisterAt half 0
  if half.extractLsb' 11 2 = 0b11#2 then
    let operand : SmallOperand :=
      if half.getLsbD 10 then .immediate (half.extractLsb' 6 3)
      else .register (lowRegisterAt half 6)
    .addSubtract (half.getLsbD 9) operand rs rd
  else .moveShifted (.ofBits (half.extractLsb' 11 2)) (half.extractLsb' 6 5) rs rd

/-- Operations on high registers, and the exchanging branch. -/
def decodeHiRegister (half : Half) : Instruction :=
  let rs := registerAt half 6 3
  let rd := registerAt half 7 0
  match half.extractLsb' 8 2 with
  | 0#2 => .hiRegister .add rs rd
  | 1#2 => .hiRegister .cmp rs rd
  | 2#2 => .hiRegister .mov rs rd
  | _ => .branchExchange rs

/-- Transfers at a register offset. -/
def decodeRegisterTransfer (half : Half) : Instruction :=
  let ro := lowRegisterAt half 6
  let rb := lowRegisterAt half 3
  let rd := lowRegisterAt half 0
  if half.getLsbD 9 then
    let op : SignedTransfer :=
      match half.getLsbD 11, half.getLsbD 10 with
      | false, false => .storeHalfword
      | true, false => .loadHalfword
      | false, true => .loadSignedByte
      | true, true => .loadSignedHalfword
    .loadStoreSigned op ro rb rd
  else .loadStoreRegister (half.getLsbD 11) (half.getLsbD 10) ro rb rd

/-- Operations on registers, loads relative to `pc`, and transfers at a register offset. -/
def decodeRegisterGroup (half : Half) : Instruction :=
  if half.getLsbD 12 then decodeRegisterTransfer half
  else if half.getLsbD 11 then .pcRelativeLoad (lowRegisterAt half 8) (wordOffset half)
  else if half.getLsbD 10 then decodeHiRegister half
  else .alu (.ofBits (half.extractLsb' 6 4)) (lowRegisterAt half 3) (lowRegisterAt half 0)

/-- Address computations and stack operations. -/
def decodeAddressGroup (half : Half) : Instruction :=
  if !half.getLsbD 12 then
    .loadAddress (half.getLsbD 11) (lowRegisterAt half 8) (wordOffset half)
  else if half.extractLsb' 8 4 = 0b0000#4 then
    let magnitude : Word := (half.extractLsb' 0 7 ++ 0b00#2).setWidth 32
    .adjustStack (if half.getLsbD 7 then -magnitude else magnitude)
  else if half.extractLsb' 9 2 = 0b10#2 then
    .pushPop (half.getLsbD 11) (half.getLsbD 8) (half.extractLsb' 0 8)
  else .undefined

/-- Transfers of several registers, conditional branches and software interrupts. -/
def decodeMultipleGroup (half : Half) : Instruction :=
  if half.getLsbD 12 then
    match half.extractLsb' 8 4 with
    | 0xE#4 => .undefined
    | 0xF#4 => .softwareInterrupt (half.extractLsb' 0 8)
    | condition =>
      .conditionalBranch (.ofBits condition) ((half.extractLsb' 0 8 ++ 0b0#1).signExtend 32)
  else
    .multipleTransfer (half.getLsbD 11) (lowRegisterAt half 8) (half.extractLsb' 0 8)

/-- Unconditional branches and the halves of a call. -/
def decodeBranchGroup (half : Half) : Instruction :=
  let field : BitVec 11 := half.extractLsb' 0 11
  match half.extractLsb' 11 2 with
  | 0b00#2 => .branch ((field ++ 0b0#1).signExtend 32)
  | 0b01#2 => .undefined
  | 0b10#2 => .longBranchHigh ((field ++ 0#12).signExtend 32)
  | _ => .longBranchLow (field ++ 0b0#1)

/-- The instruction in a halfword. -/
def decode (half : Half) : Instruction :=
  match half.extractLsb' 13 3 with
  | 0b000#3 => decodeShiftGroup half
  | 0b001#3 =>
    .immediate (.ofBits (half.extractLsb' 11 2)) (lowRegisterAt half 8) (half.extractLsb' 0 8)
  | 0b010#3 => decodeRegisterGroup half
  | 0b011#3 =>
    let byte := half.getLsbD 12
    let field : BitVec 5 := half.extractLsb' 6 5
    .loadStoreImmediate (half.getLsbD 11) byte
      (if byte then field.setWidth 7 else field ++ 0b00#2) (lowRegisterAt half 3)
      (lowRegisterAt half 0)
  | 0b100#3 =>
    if half.getLsbD 12 then
      .spRelative (half.getLsbD 11) (lowRegisterAt half 8) (wordOffset half)
    else
      .loadStoreHalfword (half.getLsbD 11) (half.extractLsb' 6 5 ++ 0b0#1) (lowRegisterAt half 3)
        (lowRegisterAt half 0)
  | 0b101#3 => decodeAddressGroup half
  | 0b110#3 => decodeMultipleGroup half
  | _ => decodeBranchGroup half

end Handheld.Thumb
