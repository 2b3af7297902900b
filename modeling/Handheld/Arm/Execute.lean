import Handheld.Arm.Decode
import Handheld.Cpu.Exception
import Handheld.Cpu.Machine

/-!
# Executing ARM instructions

When an instruction is executed `r15` has already moved on to the next one, so it reads as the
address of the instruction plus eight, and plus twelve where it is read late: as an operand beside
a shift by a register, and as the value of a store. An instruction either traps, which its form
alone decides, or changes the registers and the bus.
-/

namespace Handheld.Arm

/-- The exception an instruction traps with. -/
def Instruction.trap? : Instruction → Option Exception
  | softwareInterrupt _ => some .softwareInterrupt
  | coprocessor _ | undefined => some .undefinedInstruction
  | _ => none

/-- The value of a register operand. -/
def read (regs : RegisterFile) (r : RegNum) : Word := regs.operand .arm r

/-- The value of a register that is read late. -/
def readLate (regs : RegisterFile) (r : RegNum) : Word := regs.lateOperand .arm r

/-! ## Data processing -/

/-- The second operand and the shifter's carry. An immediate that is not rotated keeps the
carry. -/
def Operand.evaluate (operand : Operand) (regs : RegisterFile) : Shifted :=
  let carry := regs.flag Status.carry
  match operand with
  | immediate value rotate => ⟨value, if rotate = 0 then carry else value.msb⟩
  | register rm shift (.immediate amount) =>
    Shifted.byImmediate shift (read regs rm) amount carry
  | register rm shift (.register rs) =>
    Shifted.byRegister shift (readLate regs rm) (read regs rs).lowByte carry

/-- Whether the operand takes its shift from a register, which delays the reading of the
registers. -/
def Operand.shiftsByRegister : Operand → Bool
  | register _ _ (.register _) => true
  | _ => false

/-- The result of an operation and the change of flags that goes with it. -/
def Opcode.compute (opcode : Opcode) (first : Word) (second : Shifted) (carry : Bool) :
    Word × FlagsUpdate :=
  let logical (value : Word) : Word × FlagsUpdate := (value, .logical value second.carry)
  let arithmetic (result : Adder.Result) : Word × FlagsUpdate :=
    (result.value, .arithmetic result)
  match opcode with
  | and | tst => logical (first &&& second.value)
  | eor | teq => logical (first ^^^ second.value)
  | orr => logical (first ||| second.value)
  | mov => logical second.value
  | bic => logical (first &&& ~~~second.value)
  | mvn => logical (~~~second.value)
  | sub | cmp => arithmetic (Adder.sub first second.value)
  | rsb => arithmetic (Adder.sub second.value first)
  | add | cmn => arithmetic (Adder.add first second.value false)
  | adc => arithmetic (Adder.add first second.value carry)
  | sbc => arithmetic (Adder.subBorrow first second.value carry)
  | rsc => arithmetic (Adder.subBorrow second.value first carry)

/-- A data-processing instruction. With the program counter as destination, setting the flags means
restoring the saved status, which is the return from an exception. -/
def dataProcessing (opcode : Opcode) (setFlags : Bool) (rn rd : RegNum) (operand : Operand)
    (regs : RegisterFile) : RegisterFile :=
  let first := if operand.shiftsByRegister then readLate regs rn else read regs rn
  let (value, flags) :=
    opcode.compute first (operand.evaluate regs) (regs.flag Status.carry)
  if opcode.isTest then flags.apply regs
  else if rd = .pc then (if setFlags then regs.restoreStatus else regs).branchTo value
  else
    let written := regs.set rd value
    if setFlags then flags.apply written else written

/-! ## Status transfers -/

/-- Reads a status register; a mode without a saved status reads the current one. -/
def readStatus (saved : Bool) (rd : RegNum) (regs : RegisterFile) : RegisterFile :=
  regs.assign rd (if saved then regs.spsr?.getD regs.cpsr else regs.cpsr)

/-- The bits of the selected bytes. -/
def fieldMask (fields : BitVec 4) : Word :=
  let lane (i : Nat) : Byte := if fields.getLsbD i then 0xFF else 0
  Word.ofBytes (lane 0) (lane 1) (lane 2) (lane 3)

/-- The value that is written to a status register. -/
def StatusOperand.evaluate (operand : StatusOperand) (regs : RegisterFile) : Word :=
  match operand with
  | immediate value => value
  | register rm => read regs rm

/-- Replaces the masked bits of a word. -/
def blend (mask old new : Word) : Word := (old &&& ~~~mask) ||| (new &&& mask)

/-- Writes the selected bytes of a status register. User mode reaches the flags only, and the Thumb
bit never changes this way. -/
def writeStatus (saved : Bool) (fields : BitVec 4) (operand : StatusOperand)
    (regs : RegisterFile) : RegisterFile :=
  let value := operand.evaluate regs
  let mask := fieldMask fields
  if saved then
    match regs.spsr? with
    | some old => regs.setSpsr (blend mask old value)
    | none => regs
  else
    let allowed := if regs.mode = .user then mask &&& 0xFF000000 else mask
    regs.setCpsr (blend (allowed &&& ~~~Status.thumb) regs.cpsr value)

/-! ## Multiplications -/

/-- A product of 32 bits, to which another register may be added. -/
def multiply (accumulate setFlags : Bool) (rd rn rs rm : RegNum) (regs : RegisterFile) :
    RegisterFile :=
  let product := read regs rm * read regs rs
  let value := if accumulate then product + read regs rn else product
  let written := regs.assign rd value
  if setFlags then FlagsUpdate.apply (.result value) written else written

/-- A product of 64 bits, to which the destination may be added. The high register is written
last. -/
def multiplyLong (signed accumulate setFlags : Bool) (rdHigh rdLow rs rm : RegNum)
    (regs : RegisterFile) : RegisterFile :=
  let extend (value : Word) : BitVec 64 :=
    if signed then value.signExtend 64 else value.setWidth 64
  let product := extend (read regs rm) * extend (read regs rs)
  let value := if accumulate then product + (read regs rdHigh ++ read regs rdLow) else product
  let written := (regs.assign rdLow (value.setWidth 32)).assign rdHigh (value.extractLsb' 32 32)
  if setFlags then FlagsUpdate.apply (.long value) written else written

/-! ## Branches -/

/-- Branches to the address in a register, whose lowest bit selects the instruction set. -/
def branchExchange (rm : RegNum) (regs : RegisterFile) : RegisterFile :=
  let target := read regs rm
  (regs.setThumb (target.getLsbD 0)).branchTo target

/-- Branches by an offset, keeping the address of the next instruction if `link` asks for it. -/
def branch (link : Bool) (offset : Word) (regs : RegisterFile) : RegisterFile :=
  let linked := if link then regs.set .lr regs.pc else regs
  linked.branchTo (read linked .pc + offset)

/-! ## Transfers of one register -/

/-- Exchanges a register with memory. -/
def swap (byte : Bool) (rn rd rm : RegNum) (m : Machine) : Machine :=
  let address := read m.regs rn
  let source := read m.regs rm
  let loaded := m.loadUnit byte address
  (m.storeUnit byte address source).assign rd loaded

namespace Indexing

/-- The base moved by the offset. -/
def moved (indexing : Indexing) (base offset : Word) : Word :=
  if indexing.up then base + offset else base - offset

/-- The address of the transfer. -/
def address (indexing : Indexing) (base offset : Word) : Word :=
  if indexing.preIndex then indexing.moved base offset else base

/-- Moves the base register; a transfer that applies its offset afterwards always does. -/
def finish (indexing : Indexing) (rn : RegNum) (base offset : Word) (regs : RegisterFile) :
    RegisterFile :=
  if !indexing.preIndex || indexing.writeBack then
    regs.writeBack rn (indexing.moved base offset)
  else regs

end Indexing

/-- Loads a register after moving the base, so that the loaded value wins. -/
def finishLoad (indexing : Indexing) (rn rd : RegNum) (base offset value : Word) (m : Machine) :
    Machine :=
  m.mapRegs fun regs => (indexing.finish rn base offset regs).assign rd value

/-- The offset of a word or byte transfer. -/
def TransferOffset.evaluate (offset : TransferOffset) (regs : RegisterFile) : Word :=
  match offset with
  | immediate value => value.setWidth 32
  | register rm shift amount =>
    (Shifted.byImmediate shift (read regs rm) amount (regs.flag Status.carry)).value

/-- A transfer of one word or byte. -/
def singleTransfer (load byte : Bool) (indexing : Indexing) (rn rd : RegNum)
    (offset : TransferOffset) (m : Machine) : Machine :=
  let base := read m.regs rn
  let distance := offset.evaluate m.regs
  let address := indexing.address base distance
  if load then
    let value := m.loadUnit byte address
    finishLoad indexing rn rd base distance value m
  else
    let value := readLate m.regs rd
    (m.storeUnit byte address value).mapRegs (indexing.finish rn base distance)

/-- The offset of a halfword transfer. -/
def HalfwordOffset.evaluate (offset : HalfwordOffset) (regs : RegisterFile) : Word :=
  match offset with
  | immediate value => value.setWidth 32
  | register rm => read regs rm

/-- The value a halfword transfer loads. -/
def HalfwordKind.load (kind : HalfwordKind) (bus : Bus) (address : Word) : Word :=
  match kind with
  | unsigned => bus.loadHalf address
  | signedByte => bus.loadSignedByte address
  | signedHalfword => bus.loadSignedHalf address

/-- A transfer of a halfword or a signed byte. -/
def halfwordTransfer (load : Bool) (kind : HalfwordKind) (indexing : Indexing) (rn rd : RegNum)
    (offset : HalfwordOffset) (m : Machine) : Machine :=
  let base := read m.regs rn
  let distance := offset.evaluate m.regs
  let address := indexing.address base distance
  if load then
    let value := kind.load m.bus address
    finishLoad indexing rn rd base distance value m
  else
    let value := readLate m.regs rd
    (m.storeHalf address value).mapRegs (indexing.finish rn base distance)

/-! ## Transfers of several registers -/

/-- What a block transfer moves, and where. -/
structure Block where
  /-- Addresses and registers, lowest first. -/
  slots : List (Word × RegNum)
  /-- The base after the transfer. -/
  finalBase : Word
  deriving DecidableEq, Repr

/-- Lays a block out from a base. The lowest register always has the lowest address. An empty list
transfers `r15` but moves the base as sixteen registers would. -/
def Indexing.block (indexing : Indexing) (base : Word) (registers : Half) : Block :=
  let listed := if registers = 0 then [RegNum.pc] else listedRegisters registers
  let span : Word := if registers = 0 then 0x40 else BitVec.ofNat 32 (4 * listed.length)
  let finalBase := if indexing.up then base + span else base - span
  let lowest := if indexing.up then base else base - span
  { slots := transferSlots (if indexing.preIndex = indexing.up then lowest + 4 else lowest) listed
    finalBase }

/-- Loads the registers of a block. The program counter comes last; with `restore` the saved status
comes back just before it. -/
def loadBlock (restore userBank : Bool) (slots : List (Word × RegNum)) (bus : Bus)
    (regs : RegisterFile) : RegisterFile :=
  slots.foldl
    (fun regs (address, r) =>
      let value := bus.read32 address
      if r = .pc then (if restore then regs.restoreStatus else regs).branchTo value
      else if userBank then regs.setUserRegister r value
      else regs.set r value)
    regs

/-- The value a block store writes for a register. A base that is written back is stored as it was
if it is the first register and as it will be otherwise. -/
def blockStoreValue (userBank : Bool) (finalBase? : Option Word) (rn first : RegNum)
    (regs : RegisterFile) (r : RegNum) : Word :=
  if r = .pc then readLate regs r
  else if userBank then regs.userRegister r
  else
    match finalBase? with
    | some finalBase => if r = rn ∧ r ≠ first then finalBase else regs.get r
    | none => regs.get r

/-- A transfer of several registers. The base is written back before a load, so that a loaded base
wins, and after a store. -/
def blockTransfer (load userBank : Bool) (indexing : Indexing) (rn : RegNum) (registers : Half)
    (m : Machine) : Machine :=
  let block := indexing.block (read m.regs rn) registers
  let listed := block.slots.map (·.2)
  let finish (regs : RegisterFile) : RegisterFile :=
    if indexing.writeBack then regs.writeBack rn block.finalBase else regs
  if load then
    let restore := userBank && listed.contains .pc
    { m with regs := loadBlock restore (userBank && !restore) block.slots m.bus (finish m.regs) }
  else
    let finalBase? := if indexing.writeBack then some block.finalBase else none
    let value := blockStoreValue userBank finalBase? rn (listed.headD .pc) m.regs
    (m.storeWords (block.slots.map fun (address, r) => (address, value r))).mapRegs finish

/-! ## All instructions -/

/-- The effect of an instruction that does not trap. A trapping instruction has none of its own. -/
def Instruction.execute (instruction : Instruction) (m : Machine) : Machine :=
  match instruction with
  | .dataProcessing opcode setFlags rn rd operand =>
    m.mapRegs (Arm.dataProcessing opcode setFlags rn rd operand)
  | mrs saved rd => m.mapRegs (readStatus saved rd)
  | msr saved fields operand => m.mapRegs (writeStatus saved fields operand)
  | .multiply accumulate setFlags rd rn rs rm =>
    m.mapRegs (Arm.multiply accumulate setFlags rd rn rs rm)
  | .multiplyLong signed accumulate setFlags rdHigh rdLow rs rm =>
    m.mapRegs (Arm.multiplyLong signed accumulate setFlags rdHigh rdLow rs rm)
  | .swap byte rn rd rm => Arm.swap byte rn rd rm m
  | .branchExchange rm => m.mapRegs (Arm.branchExchange rm)
  | .halfwordTransfer load kind indexing rn rd offset =>
    Arm.halfwordTransfer load kind indexing rn rd offset m
  | .singleTransfer load byte indexing rn rd offset =>
    Arm.singleTransfer load byte indexing rn rd offset m
  | .blockTransfer load userBank indexing rn registers =>
    Arm.blockTransfer load userBank indexing rn registers m
  | .branch link offset => m.mapRegs (Arm.branch link offset)
  | softwareInterrupt _ | coprocessor _ | undefined => m

end Handheld.Arm
