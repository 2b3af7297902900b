import Handheld.Thumb.Decode
import Handheld.Cpu.Exception
import Handheld.Cpu.Machine

/-!
# Executing Thumb instructions

When an instruction is executed `r15` has already moved on to the next one, so it reads as the
address of the instruction plus four. All instructions that compute set the flags, but for the
operations on high registers and the computation of addresses.
-/

namespace Handheld.Thumb

/-- The exception an instruction traps with. -/
def Instruction.trap? : Instruction → Option Exception
  | softwareInterrupt _ => some .softwareInterrupt
  | undefined => some .undefinedInstruction
  | _ => none

/-- The value of a register operand. -/
def read (regs : RegisterFile) (r : RegNum) : Word := regs.operand .thumb r

/-! ## Arithmetic and logic -/

/-- Writes a sum and sets the flags from it. -/
def writeSum (rd : RegNum) (sum : Adder.Result) (regs : RegisterFile) : RegisterFile :=
  FlagsUpdate.apply (.arithmetic sum) (regs.assign rd sum.value)

/-- Writes a logical result and sets the flags from it and the shifter's carry. -/
def writeLogical (rd : RegNum) (value : Word) (carry : Bool) (regs : RegisterFile) :
    RegisterFile :=
  FlagsUpdate.apply (.logical value carry) (regs.assign rd value)

/-- Writes a result that leaves the carry alone. -/
def writeResult (rd : RegNum) (value : Word) (regs : RegisterFile) : RegisterFile :=
  FlagsUpdate.apply (.result value) (regs.assign rd value)

/-- Compares two values. -/
def compare (a b : Word) (regs : RegisterFile) : RegisterFile :=
  FlagsUpdate.apply (.arithmetic (Adder.sub a b)) regs

/-- Moves a register through the shifter. -/
def moveShifted (shift : ShiftKind) (amount : BitVec 5) (rs rd : RegNum) (regs : RegisterFile) :
    RegisterFile :=
  let shifted := Shifted.byImmediate shift (read regs rs) amount (regs.flag Status.carry)
  writeLogical rd shifted.value shifted.carry regs

/-- The value of a small operand. -/
def SmallOperand.evaluate (operand : SmallOperand) (regs : RegisterFile) : Word :=
  match operand with
  | register rn => read regs rn
  | immediate value => value.setWidth 32

/-- Adds or subtracts with three operands. -/
def addSubtract (subtract : Bool) (operand : SmallOperand) (rs rd : RegNum)
    (regs : RegisterFile) : RegisterFile :=
  let a := read regs rs
  let b := operand.evaluate regs
  writeSum rd (if subtract then Adder.sub a b else Adder.add a b false) regs

/-- Operates on a register and a byte. -/
def immediateOperation (op : ImmediateOp) (rd : RegNum) (byte : Byte) (regs : RegisterFile) :
    RegisterFile :=
  let value : Word := byte.setWidth 32
  match op with
  | .mov => writeResult rd value regs
  | .cmp => compare (read regs rd) value regs
  | .add => writeSum rd (Adder.add (read regs rd) value false) regs
  | .sub => writeSum rd (Adder.sub (read regs rd) value) regs

/-- Operates on two low registers. A product keeps the carry. -/
def aluOperation (op : AluOp) (rs rd : RegNum) (regs : RegisterFile) : RegisterFile :=
  let a := read regs rd
  let b := read regs rs
  let carry := regs.flag Status.carry
  let shift (kind : ShiftKind) : RegisterFile :=
    let shifted := Shifted.byRegister kind a b.lowByte carry
    writeLogical rd shifted.value shifted.carry regs
  match op with
  | .and => writeLogical rd (a &&& b) carry regs
  | .eor => writeLogical rd (a ^^^ b) carry regs
  | .orr => writeLogical rd (a ||| b) carry regs
  | .bic => writeLogical rd (a &&& ~~~b) carry regs
  | .mvn => writeLogical rd (~~~b) carry regs
  | .tst => FlagsUpdate.apply (.logical (a &&& b) carry) regs
  | .lsl => shift .lsl
  | .lsr => shift .lsr
  | .asr => shift .asr
  | .ror => shift .ror
  | .adc => writeSum rd (Adder.add a b carry) regs
  | .sbc => writeSum rd (Adder.subBorrow a b carry) regs
  | .neg => writeSum rd (Adder.sub 0 b) regs
  | .cmp => compare a b regs
  | .cmn => FlagsUpdate.apply (.arithmetic (Adder.add a b false)) regs
  | .mul => writeResult rd (a * b) regs

/-- Operates on two of all registers. Only the comparison sets flags. -/
def hiRegisterOperation (op : HiRegisterOp) (rs rd : RegNum) (regs : RegisterFile) :
    RegisterFile :=
  match op with
  | .add => regs.assign rd (read regs rd + read regs rs)
  | .cmp => compare (read regs rd) (read regs rs) regs
  | .mov => regs.assign rd (read regs rs)

/-! ## Branches -/

/-- Branches to the address in a register, whose lowest bit selects the instruction set. -/
def branchExchange (rs : RegNum) (regs : RegisterFile) : RegisterFile :=
  let target := read regs rs
  (regs.setThumb (target.getLsbD 0)).branchTo target

/-- Branches by an offset. -/
def branch (offset : Word) (regs : RegisterFile) : RegisterFile :=
  regs.branchTo (read regs .pc + offset)

/-- Completes a call: the return address is marked as Thumb code. -/
def longBranchLow (offset : BitVec 12) (regs : RegisterFile) : RegisterFile :=
  let target := regs.get .lr + offset.setWidth 32
  (regs.set .lr (regs.pc ||| 1)).branchTo target

/-! ## Addresses -/

/-- The program counter as a base: aligned to words. -/
def pcBase (regs : RegisterFile) : Word := (read regs .pc).alignWord

/-- Computes the address of data near the stack pointer or the program counter. -/
def loadAddress (fromSp : Bool) (rd : RegNum) (offset : BitVec 10) (regs : RegisterFile) :
    RegisterFile :=
  let base := if fromSp then read regs .sp else pcBase regs
  regs.assign rd (base + offset.setWidth 32)

/-! ## Transfers of one register -/

/-- A transfer of a word or a byte. -/
def transferUnit (load byte : Bool) (address : Word) (rd : RegNum) (m : Machine) : Machine :=
  if load then
    let value := m.loadUnit byte address
    m.assign rd value
  else
    let value := read m.regs rd
    m.storeUnit byte address value

/-- A transfer of a halfword or a signed byte. -/
def transferSigned (op : SignedTransfer) (address : Word) (rd : RegNum) (m : Machine) : Machine :=
  match op with
  | .storeHalfword =>
    let value := read m.regs rd
    m.storeHalf address value
  | .loadHalfword =>
    let value := m.bus.loadHalf address
    m.assign rd value
  | .loadSignedByte =>
    let value := m.bus.loadSignedByte address
    m.assign rd value
  | .loadSignedHalfword =>
    let value := m.bus.loadSignedHalf address
    m.assign rd value

/-- Loads a word near the program counter. -/
def pcRelativeLoad (rd : RegNum) (offset : BitVec 10) (m : Machine) : Machine :=
  let value := m.bus.read32 (pcBase m.regs + offset.setWidth 32)
  m.assign rd value

/-! ## Transfers of several registers -/

/-- The low registers of a list, lowest first. -/
def listedLow (registers : Byte) : List RegNum := listedRegisters (registers.setWidth 16)

/-- Bytes that a number of registers takes. -/
def spanOf (listed : List RegNum) : Word := BitVec.ofNat 32 (4 * listed.length)

/-- Loads registers from their slots. A load of the program counter is a branch. -/
def loadSlots (slots : List (Word × RegNum)) (bus : Bus) (regs : RegisterFile) : RegisterFile :=
  slots.foldl (fun regs (address, r) => regs.assign r (bus.read32 address)) regs

/-- Loads registers, and the program counter after them if asked to, and then raises the stack
pointer. -/
def pop (link : Bool) (registers : Byte) (m : Machine) : Machine :=
  let sp := m.regs.get .sp
  let listed := listedLow registers ++ if link then [RegNum.pc] else []
  { m with
    regs := (loadSlots (transferSlots sp listed) m.bus m.regs).set .sp (sp + spanOf listed) }

/-- Stores registers, and the link register after them if asked to, below the stack pointer, and
then lowers it. -/
def push (link : Bool) (registers : Byte) (m : Machine) : Machine :=
  let regs := m.regs
  let listed := listedLow registers ++ if link then [RegNum.lr] else []
  let start := regs.get .sp - spanOf listed
  let writes := (transferSlots start listed).map fun (address, r) => (address, regs.get r)
  (m.storeWords writes).mapRegs (·.set .sp start)

/-- Transfers `r15` alone, as an empty list asks, and moves the base as sixteen registers would. -/
def transferEmpty (load : Bool) (rb : RegNum) (m : Machine) : Machine :=
  let base := read m.regs rb
  let transferred :=
    if load then
      let value := m.bus.read32 base
      m.assign .pc value
    else
      let value := read m.regs .pc + 2
      m.storeWord base value
  transferred.mapRegs (·.writeBack rb (base + 0x40))

/-- Transfers registers upwards from a base. The base is written back before a load, so that a
loaded base wins; a store writes the final base unless the base is the first register. -/
def multipleTransfer (load : Bool) (rb : RegNum) (registers : Byte) (m : Machine) : Machine :=
  if registers = 0 then transferEmpty load rb m
  else
    let regs := m.regs
    let base := read regs rb
    let listed := listedLow registers
    let finalBase := base + spanOf listed
    let slots := transferSlots base listed
    if load then
      { m with regs := loadSlots slots m.bus (regs.writeBack rb finalBase) }
    else
      let first := listed.headD .pc
      let value (r : RegNum) : Word := if r = rb ∧ r ≠ first then finalBase else regs.get r
      (m.storeWords (slots.map fun (address, r) => (address, value r))).mapRegs
        (·.writeBack rb finalBase)

/-! ## All instructions -/

/-- The effect of an instruction that does not trap. A trapping instruction has none of its own. -/
def Instruction.execute (instruction : Instruction) (m : Machine) : Machine :=
  match instruction with
  | .moveShifted shift amount rs rd => m.mapRegs (Thumb.moveShifted shift amount rs rd)
  | .addSubtract subtract operand rs rd => m.mapRegs (Thumb.addSubtract subtract operand rs rd)
  | immediate op rd value => m.mapRegs (immediateOperation op rd value)
  | alu op rs rd => m.mapRegs (aluOperation op rs rd)
  | hiRegister op rs rd => m.mapRegs (hiRegisterOperation op rs rd)
  | .branchExchange rs => m.mapRegs (Thumb.branchExchange rs)
  | .pcRelativeLoad rd offset => Thumb.pcRelativeLoad rd offset m
  | loadStoreRegister load byte ro rb rd =>
    transferUnit load byte (read m.regs rb + read m.regs ro) rd m
  | loadStoreSigned op ro rb rd => transferSigned op (read m.regs rb + read m.regs ro) rd m
  | loadStoreImmediate load byte offset rb rd =>
    transferUnit load byte (read m.regs rb + offset.setWidth 32) rd m
  | loadStoreHalfword load offset rb rd =>
    transferSigned (if load then .loadHalfword else .storeHalfword)
      (read m.regs rb + offset.setWidth 32) rd m
  | spRelative load rd offset =>
    transferUnit load false (read m.regs .sp + offset.setWidth 32) rd m
  | .loadAddress fromSp rd offset => m.mapRegs (Thumb.loadAddress fromSp rd offset)
  | adjustStack offset => m.mapRegs fun regs => regs.set .sp (regs.get .sp + offset)
  | pushPop pop link registers =>
    if pop then Thumb.pop link registers m else push link registers m
  | .multipleTransfer load rb registers => Thumb.multipleTransfer load rb registers m
  | conditionalBranch condition offset =>
    m.mapRegs fun regs => if condition.passes regs.cpsr then Thumb.branch offset regs else regs
  | .branch offset => m.mapRegs (Thumb.branch offset)
  | longBranchHigh offset => m.mapRegs fun regs => regs.set .lr (read regs .pc + offset)
  | .longBranchLow offset => m.mapRegs (Thumb.longBranchLow offset)
  | softwareInterrupt _ | undefined => m

end Handheld.Thumb
