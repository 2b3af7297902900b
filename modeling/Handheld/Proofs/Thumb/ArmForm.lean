import Handheld.Thumb.Execute
import Handheld.Proofs.Arm.BlockTransfer
import Handheld.Proofs.Arm.DataProcessing
import Handheld.Proofs.Thumb.LowRegisters

/-!
# Thumb instructions as ARM instructions

Most Thumb instructions are short forms of an ARM instruction (`Thumb.Instruction.armForm?`). To
compute with the registers and then enter ARM state (`RegisterFile.inArm`) is to enter ARM state and
then compute as the ARM form does. Here this is shown of arithmetic, logic and addresses.
-/

namespace Handheld

/-! ## The ARM form of an instruction -/

/-- A transfer at the sum of base and offset that leaves the base alone. -/
def Arm.Indexing.offset : Arm.Indexing := ⟨true, true, false⟩

namespace Thumb

/-- A register as it is. -/
def plainRegister (r : RegNum) : Arm.Operand := .register r .lsl (.immediate 0)

/-- A byte as it is. -/
def plainImmediate (value : Word) : Arm.Operand := .immediate value 0

/-- The operand of the ARM form. -/
def SmallOperand.armForm : SmallOperand → Arm.Operand
  | register rn => plainRegister rn
  | immediate value => plainImmediate (value.setWidth 32)

/-- What stands in the field of a register that an instruction does not use. -/
def unusedField : RegNum := (0 : BitVec 4).toFin

/-- Operations on a byte, as operations that set the flags. -/
def ImmediateOp.armForm (op : ImmediateOp) (rd : RegNum) (value : Byte) : Arm.Instruction :=
  let operand := plainImmediate (value.setWidth 32)
  match op with
  | mov => .dataProcessing .mov true unusedField rd operand
  | cmp => .dataProcessing .cmp true rd unusedField operand
  | add => .dataProcessing .add true rd rd operand
  | sub => .dataProcessing .sub true rd rd operand

/-- Operations on two low registers, as operations that set the flags. -/
def AluOp.armForm (op : AluOp) (rs rd : RegNum) : Arm.Instruction :=
  let combine (opcode : Arm.Opcode) : Arm.Instruction :=
    .dataProcessing opcode true rd rd (plainRegister rs)
  let test (opcode : Arm.Opcode) : Arm.Instruction :=
    .dataProcessing opcode true rd unusedField (plainRegister rs)
  let shift (kind : ShiftKind) : Arm.Instruction :=
    .dataProcessing .mov true unusedField rd (.register rd kind (.register rs))
  match op with
  | and => combine .and
  | eor => combine .eor
  | lsl => shift .lsl
  | lsr => shift .lsr
  | asr => shift .asr
  | adc => combine .adc
  | sbc => combine .sbc
  | ror => shift .ror
  | tst => test .tst
  | neg => .dataProcessing .rsb true rs rd (plainImmediate 0)
  | cmp => test .cmp
  | cmn => test .cmn
  | orr => combine .orr
  | mul => .multiply false true rd unusedField rd rs
  | bic => combine .bic
  | mvn => .dataProcessing .mvn true unusedField rd (plainRegister rs)

/-- Operations on all registers. Only the comparison sets flags. -/
def HiRegisterOp.armForm (op : HiRegisterOp) (rs rd : RegNum) : Arm.Instruction :=
  match op with
  | add => .dataProcessing .add false rd rd (plainRegister rs)
  | cmp => .dataProcessing .cmp true rd unusedField (plainRegister rs)
  | mov => .dataProcessing .mov false unusedField rd (plainRegister rs)

/-- Halfword and signed transfers. -/
def SignedTransfer.armForm (op : SignedTransfer) (rb rd : RegNum) (offset : Arm.HalfwordOffset) :
    Arm.Instruction :=
  match op with
  | storeHalfword => .halfwordTransfer false .unsigned .offset rb rd offset
  | loadHalfword => .halfwordTransfer true .unsigned .offset rb rd offset
  | loadSignedByte => .halfwordTransfer true .signedByte .offset rb rd offset
  | loadSignedHalfword => .halfwordTransfer true .signedHalfword .offset rb rd offset

/-- The registers of a push, as the list of a block transfer. -/
def pushed (link : Bool) (registers : Byte) : Half :=
  registers.setWidth 16 ||| if link then 0x4000 else 0

/-- Whether an instruction is the short form of an ARM instruction. Branches, traps, operations that
read or write `r15` and transfers of an empty list are not. -/
def Instruction.isShortForm : Instruction → Bool
  | moveShifted .. | addSubtract .. | immediate .. | alu .. | loadStoreRegister .. => true
  | loadStoreSigned .. | loadStoreImmediate .. | loadStoreHalfword .. | spRelative .. => true
  | hiRegister _ rs rd => rs != .pc && rd != .pc
  | loadAddress fromSp _ _ => fromSp
  | adjustStack _ => true
  | pushPop pops link registers => if pops then !link && registers != 0 else link || registers != 0
  | multipleTransfer _ _ registers => registers != 0
  | _ => false

/-- The ARM instruction with the same effect. -/
def Instruction.armForm? : Instruction → Option Arm.Instruction
  | moveShifted shift amount rs rd =>
    some (.dataProcessing .mov true unusedField rd (.register rs shift (.immediate amount)))
  | addSubtract subtract operand rs rd =>
    some (.dataProcessing (if subtract then .sub else .add) true rs rd operand.armForm)
  | immediate op rd value => some (op.armForm rd value)
  | alu op rs rd => some (op.armForm rs rd)
  | hiRegister op rs rd => if rs = .pc ∨ rd = .pc then none else some (op.armForm rs rd)
  | loadStoreRegister load byte ro rb rd =>
    some (.singleTransfer load byte .offset rb rd (.register ro .lsl 0))
  | loadStoreSigned op ro rb rd => some (op.armForm rb rd (.register ro))
  | loadStoreImmediate load byte offset rb rd =>
    some (.singleTransfer load byte .offset rb rd (.immediate (offset.setWidth 12)))
  | loadStoreHalfword load offset rb rd =>
    let op : SignedTransfer := if load then .loadHalfword else .storeHalfword
    some (op.armForm rb rd (.immediate (offset.setWidth 8)))
  | spRelative load rd offset =>
    some (.singleTransfer load false .offset .sp rd (.immediate (offset.setWidth 12)))
  | loadAddress true rd offset =>
    some (.dataProcessing .add false .sp rd (.immediate (offset.setWidth 32) 30))
  | adjustStack offset =>
    if offset.msb then some (.dataProcessing .sub false .sp .sp (.immediate (-offset) 30))
    else some (.dataProcessing .add false .sp .sp (.immediate offset 30))
  | pushPop false link registers =>
    if registers = 0 ∧ link = false then none
    else some (.blockTransfer false false .decrementBefore .sp (pushed link registers))
  | pushPop true false registers =>
    if registers = 0 then none
    else some (.blockTransfer true false .incrementAfter .sp (registers.setWidth 16))
  | multipleTransfer load rb registers =>
    if registers = 0 then none
    else some (.blockTransfer load false .incrementAfter rb (registers.setWidth 16))
  | _ => none

/-- Every short form has its ARM instruction, so that the agreement of the two speaks of all of
them. -/
theorem exists_armForm {instruction : Instruction} (short : instruction.isShortForm = true) :
    ∃ arm, instruction.armForm? = some arm := by
  cases instruction with
  | moveShifted | addSubtract | immediate | alu | loadStoreRegister | loadStoreSigned
  | loadStoreImmediate | loadStoreHalfword | spRelative => exact ⟨_, rfl⟩
  | hiRegister op rs rd =>
      obtain ⟨source, destination⟩ := Bool.and_eq_true_iff.mp short
      have notPc : ¬ (rs = .pc ∨ rd = .pc) := by
        rintro (same | same)
        · exact bne_iff_ne.mp source same
        · exact bne_iff_ne.mp destination same
      exact ⟨_, if_neg notPc⟩
  | loadAddress fromSp rd offset =>
      cases fromSp with
      | true => exact ⟨_, rfl⟩
      | false => cases short
  | adjustStack offset =>
      rw [Instruction.armForm?]
      split
      · exact ⟨_, rfl⟩
      · exact ⟨_, rfl⟩
  | pushPop pops link registers =>
      cases pops with
      | true =>
          obtain ⟨noLink, listed⟩ := Bool.and_eq_true_iff.mp short
          obtain rfl : link = false := by simpa using noLink
          exact ⟨_, if_neg (bne_iff_ne.mp listed)⟩
      | false =>
          have transferred : ¬ (registers = 0 ∧ link = false) := by
            rintro ⟨rfl, rfl⟩
            cases short
          exact ⟨_, if_neg transferred⟩
  | multipleTransfer load rb registers => exact ⟨_, if_neg (bne_iff_ne.mp short)⟩
  | branchExchange | pcRelativeLoad | conditionalBranch | softwareInterrupt | branch
  | longBranchHigh | longBranchLow | undefined => cases short

end Thumb

/-! ## Entering ARM state -/

namespace RegisterFile

variable (regs : RegisterFile)

/-- The registers in ARM state. -/
def inArm : RegisterFile := regs.setThumb false

@[simp] theorem get_inArm (r : RegNum) : regs.inArm.get r = regs.get r := rfl

@[simp] theorem carry_inArm : regs.inArm.flag Status.carry = regs.flag Status.carry :=
  flag_setFlag_of_disjoint regs (by decide) false

/-- Writing a register and changing the instruction set are independent of each other. -/
theorem inArm_set (r : RegNum) (value : Word) : (regs.set r value).inArm = regs.inArm.set r value :=
  rfl

/-- So are setting a flag and changing the instruction set, as long as the flag is not the Thumb bit
itself. -/
theorem inArm_setFlag {mask : Word} (disjoint : mask &&& Status.thumb = 0) (value : Bool) :
    (regs.setFlag mask value).inArm = regs.inArm.setFlag mask value :=
  setFlag_comm regs disjoint value false

/-- Setting condition flags and changing the instruction set are independent, as the Thumb bit is
none of these flags. -/
theorem inArm_apply (update : FlagsUpdate) :
    (update.apply regs).inArm = update.apply regs.inArm := by
  have negative : Status.negative &&& Status.thumb = 0 := by decide
  have zero : Status.zero &&& Status.thumb = 0 := by decide
  have carry : Status.carry &&& Status.thumb = 0 := by decide
  have overflow : Status.overflow &&& Status.thumb = 0 := by decide
  cases update <;>
    simp only [FlagsUpdate.apply, FlagsUpdate.setSignZero, inArm_setFlag _ negative,
      inArm_setFlag _ zero, inArm_setFlag _ carry, inArm_setFlag _ overflow]

end RegisterFile

namespace Machine

/-- The machine in ARM state. -/
def inArm (m : Machine) : Machine := m.mapRegs (·.inArm)

/-- What two functions do alike to the register files, they do alike to the machines. -/
theorem mapRegs_inArm (m : Machine) {f g : RegisterFile → RegisterFile}
    (square : g m.regs.inArm = (f m.regs).inArm) : m.inArm.mapRegs g = (m.mapRegs f).inArm :=
  congrArg (Machine.mk · m.bus) square

end Machine

namespace Thumb

open RegisterFile

variable (regs : RegisterFile)

/-! ## Arithmetic and logic -/

/-- A logical operation that takes the carry as it is sets the other flags only, like the Thumb
operations that leave the carry alone. -/
theorem apply_logical_carry (value : Word) :
    FlagsUpdate.apply (.logical value (regs.flag Status.carry)) regs =
      FlagsUpdate.apply (.result value) regs := by
  have kept : (FlagsUpdate.setSignZero regs value).flag Status.carry = regs.flag Status.carry := by
    rw [FlagsUpdate.setSignZero, flag_setFlag_of_disjoint _ (by decide),
      flag_setFlag_of_disjoint _ (by decide)]
  simp only [FlagsUpdate.apply]
  rw [← kept, setFlag_carry_self]

/-- A shift by a constant is `MOVS` with a shifted register. Both take a zero amount in the same
way, since it is the ARM form that gives it its meaning. -/
theorem moveShifted_inArm {rs rd : RegNum} (source : rs ≠ .pc) (destination : rd ≠ .pc)
    (shift : ShiftKind) (amount : BitVec 5) :
    Arm.dataProcessing .mov true unusedField rd (.register rs shift (.immediate amount))
        regs.inArm =
      (moveShifted shift amount rs rd regs).inArm := by
  rw [Arm.dataProcessing_setFlags _ _ rfl _ destination rfl]
  simp only [Arm.Opcode.compute, Arm.Operand.evaluate, Arm.read, operand_of_ne _ source, get_inArm,
    carry_inArm, moveShifted, read, writeLogical, assign_of_ne _ destination, inArm_apply,
    inArm_set]

/-- An immediate operand without a rotation leaves the carry flag as it is. -/
@[simp] theorem evaluate_plainImmediate (value : Word) :
    (plainImmediate value).evaluate regs = ⟨value, regs.flag Status.carry⟩ := rfl

/-- So does a register that is not shifted. -/
theorem evaluate_plainRegister {r : RegNum} (notPc : r ≠ .pc) :
    (plainRegister r).evaluate regs = ⟨regs.get r, regs.flag Status.carry⟩ := by
  rw [← regs.operand_of_ne notPc .arm]
  rfl

/-- The second operand of an addition has the same value in both forms, and neither changes the
carry. -/
theorem SmallOperand.evaluate_armForm {operand : SmallOperand}
    (low : ∀ rn, operand = .register rn → rn ≠ .pc) :
    operand.armForm.evaluate regs.inArm = ⟨operand.evaluate regs, regs.flag Status.carry⟩ := by
  cases operand with
  | register rn =>
      have notPc := low rn rfl
      rw [armForm, evaluate_plainRegister _ notPc, evaluate, read, operand_of_ne _ notPc,
        get_inArm, carry_inArm]
  | immediate value => rw [armForm, evaluate_plainImmediate, evaluate, carry_inArm]

/-- No short form shifts by a register, so `r15` is never read a word later than usual. -/
theorem SmallOperand.shiftsByRegister_armForm (operand : SmallOperand) :
    operand.armForm.shiftsByRegister = false := by
  cases operand <;> rfl

/-- Addition and subtraction of a register or a three-bit constant are `ADDS` and `SUBS`, with all
four flags. -/
theorem addSubtract_inArm {operand : SmallOperand} {rs rd : RegNum}
    (low : ∀ rn, operand = .register rn → rn ≠ .pc) (source : rs ≠ .pc) (destination : rd ≠ .pc)
    (subtract : Bool) :
    Arm.dataProcessing (if subtract then .sub else .add) true rs rd operand.armForm regs.inArm =
      (addSubtract subtract operand rs rd regs).inArm := by
  cases subtract <;> simp only [Bool.false_eq_true, ↓reduceIte]
  · rw [Arm.dataProcessing_setFlags _ _ rfl _ destination operand.shiftsByRegister_armForm,
      operand.evaluate_armForm regs low]
    simp only [Arm.Opcode.compute, Arm.read, operand_of_ne _ source, get_inArm, addSubtract, read,
      writeSum, assign_of_ne _ destination, inArm_apply, inArm_set, Bool.false_eq_true, ↓reduceIte]
  · rw [Arm.dataProcessing_setFlags _ _ rfl _ destination operand.shiftsByRegister_armForm,
      operand.evaluate_armForm regs low]
    simp only [Arm.Opcode.compute, Arm.read, operand_of_ne _ source, get_inArm, addSubtract, read,
      writeSum, assign_of_ne _ destination, inArm_apply, inArm_set, ↓reduceIte]

/-- The operations with a byte constant are the ARM operations of the same name with this constant.
`MOV` gives logical flags and the others arithmetic ones. -/
theorem immediate_inArm {rd : RegNum} (notPc : rd ≠ .pc) (op : ImmediateOp) (value : Byte)
    (m : Machine) :
    (op.armForm rd value).execute m.inArm = (m.mapRegs (immediateOperation op rd value)).inArm := by
  cases op with
  | mov =>
      refine m.mapRegs_inArm ?_
      rw [Arm.dataProcessing_setFlags _ _ rfl _ notPc rfl, evaluate_plainImmediate]
      simp only [Arm.Opcode.compute, immediateOperation, writeResult, assign_of_ne _ notPc,
        inArm_apply, inArm_set]
      exact apply_logical_carry (m.regs.inArm.set rd _) _
  | cmp =>
      refine m.mapRegs_inArm ?_
      rw [Arm.dataProcessing_test _ _ rfl _ _ rfl, evaluate_plainImmediate]
      simp only [Arm.Opcode.compute, Arm.read, read, operand_of_ne _ notPc, get_inArm,
        immediateOperation, compare, inArm_apply]
  | add =>
      refine m.mapRegs_inArm ?_
      rw [Arm.dataProcessing_setFlags _ _ rfl _ notPc rfl, evaluate_plainImmediate]
      simp only [Arm.Opcode.compute, Arm.read, read, operand_of_ne _ notPc, get_inArm,
        immediateOperation, writeSum, assign_of_ne _ notPc, inArm_apply, inArm_set]
  | sub =>
      refine m.mapRegs_inArm ?_
      rw [Arm.dataProcessing_setFlags _ _ rfl _ notPc rfl, evaluate_plainImmediate]
      simp only [Arm.Opcode.compute, Arm.read, read, operand_of_ne _ notPc, get_inArm,
        immediateOperation, writeSum, assign_of_ne _ notPc, inArm_apply, inArm_set]

/-- Each of the sixteen register operations is the ARM operation of its name. The shifts are `MOVS`
with an amount in a register, and `NEG` is `RSBS` from zero. -/
theorem alu_inArm {rs rd : RegNum} (source : rs ≠ .pc) (destination : rd ≠ .pc) (op : AluOp)
    (m : Machine) :
    (op.armForm rs rd).execute m.inArm = (m.mapRegs (aluOperation op rs rd)).inArm := by
  cases op with
  | mul =>
      refine m.mapRegs_inArm ?_
      simp only [Arm.multiply, Arm.read, read, aluOperation, writeResult,
        assign_of_ne _ destination, operand_of_ne _ source, operand_of_ne _ destination, get_inArm,
        inArm_apply, inArm_set, Bool.false_eq_true, ↓reduceIte]
      rw [BitVec.mul_comm]
  | lsl | lsr | asr | ror =>
      refine m.mapRegs_inArm ?_
      simp only [Arm.dataProcessing, Arm.Opcode.isTest, destination, Arm.Operand.evaluate,
        Arm.Opcode.compute, Arm.read, Arm.readLate, read, operand_of_ne _ source,
        lateOperand_of_ne _ destination, operand_of_ne _ destination, get_inArm, carry_inArm,
        aluOperation, writeLogical, assign_of_ne _ destination, inArm_apply, inArm_set,
        Bool.false_eq_true, ↓reduceIte]
  | tst | cmp | cmn =>
      refine m.mapRegs_inArm ?_
      rw [Arm.dataProcessing_test _ _ rfl _ _ rfl, evaluate_plainRegister _ source]
      simp only [Arm.Opcode.compute, Arm.read, read, operand_of_ne _ source,
        operand_of_ne _ destination, get_inArm, carry_inArm, aluOperation, compare, inArm_apply]
  | neg =>
      refine m.mapRegs_inArm ?_
      rw [Arm.dataProcessing_setFlags _ _ rfl _ destination rfl, evaluate_plainImmediate]
      simp only [Arm.Opcode.compute, Arm.read, read, operand_of_ne _ source, get_inArm,
        aluOperation, writeSum, assign_of_ne _ destination, inArm_apply, inArm_set]
  | and | eor | adc | sbc | orr | bic | mvn =>
      refine m.mapRegs_inArm ?_
      rw [Arm.dataProcessing_setFlags _ _ rfl _ destination rfl, evaluate_plainRegister _ source]
      simp only [Arm.Opcode.compute, Arm.read, read, operand_of_ne _ source,
        operand_of_ne _ destination, get_inArm, carry_inArm, aluOperation, writeSum, writeLogical,
        assign_of_ne _ destination, inArm_apply, inArm_set]

/-- The operations on high registers are ARM operations that leave the flags alone, apart from
`CMP`. -/
theorem hiRegister_inArm {rs rd : RegNum} (source : rs ≠ .pc) (destination : rd ≠ .pc)
    (op : HiRegisterOp) (m : Machine) :
    (op.armForm rs rd).execute m.inArm = (m.mapRegs (hiRegisterOperation op rs rd)).inArm := by
  cases op with
  | cmp =>
      refine m.mapRegs_inArm ?_
      rw [Arm.dataProcessing_test _ _ rfl _ _ rfl, evaluate_plainRegister _ source]
      simp only [Arm.Opcode.compute, Arm.read, read, operand_of_ne _ source,
        operand_of_ne _ destination, get_inArm, hiRegisterOperation, compare, inArm_apply]
  | add | mov =>
      refine m.mapRegs_inArm ?_
      rw [Arm.dataProcessing_keepFlags _ _ rfl _ destination rfl, evaluate_plainRegister _ source]
      simp only [Arm.Opcode.compute, Adder.value_add, Arm.read, read, operand_of_ne _ source,
        operand_of_ne _ destination, get_inArm, hiRegisterOperation, assign_of_ne _ destination,
        inArm_set]

/-! ## Addresses -/

theorem sp_ne_pc : RegNum.sp ≠ RegNum.pc := by
  decide

/-- An address relative to the stack is an `ADD` of the word offset, which ARM writes as a byte
rotated by 30. -/
theorem loadAddress_inArm {rd : RegNum} (notPc : rd ≠ .pc) (offset : BitVec 10) :
    Arm.dataProcessing .add false .sp rd (.immediate (offset.setWidth 32) 30) regs.inArm =
      (loadAddress true rd offset regs).inArm := by
  rw [Arm.dataProcessing_keepFlags _ _ rfl _ notPc rfl]
  simp only [Arm.Opcode.compute, Arm.Operand.evaluate, Adder.value_add, Arm.read, read,
    operand_of_ne _ sp_ne_pc, get_inArm, loadAddress, assign_of_ne _ notPc, inArm_set, ↓reduceIte]

/-- The stack pointer is moved by `ADD` or by `SUB` according to the sign of the offset, since an
ARM constant has none. -/
theorem adjustStack_inArm (offset : Word) :
    (if offset.msb then
        Arm.dataProcessing .sub false .sp .sp (.immediate (-offset) 30) regs.inArm
      else Arm.dataProcessing .add false .sp .sp (.immediate offset 30) regs.inArm) =
      (regs.set .sp (regs.get .sp + offset)).inArm := by
  split
  · rw [Arm.dataProcessing_keepFlags _ _ rfl _ sp_ne_pc rfl]
    simp only [Arm.Opcode.compute, Arm.Operand.evaluate, Adder.value_sub, Arm.read,
      operand_of_ne _ sp_ne_pc, get_inArm, inArm_set, BitVec.sub_neg]
  · rw [Arm.dataProcessing_keepFlags _ _ rfl _ sp_ne_pc rfl]
    simp only [Arm.Opcode.compute, Arm.Operand.evaluate, Adder.value_add, Arm.read,
      operand_of_ne _ sp_ne_pc, get_inArm, inArm_set]

end Thumb

end Handheld
