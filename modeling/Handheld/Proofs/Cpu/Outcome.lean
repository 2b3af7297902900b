import Handheld.Proofs.Arm.BlockSemantics
import Handheld.Proofs.Cpu.Step
import Handheld.Proofs.Memory.Stores

/-!
# What an outcome tells

Whoever runs the processor sees the outcome of an instruction and charges time by it. The outcome is
told from the form of the instruction, and yet says what was done: a skipped instruction only moved
on, one that trapped did nothing before it entered the exception, and the class of one that retired
tells what it left alone (`ExecuteOutcome.Effects`). For the status this is shown of the
instructions of either set (`Arm.cpsr_execute`, `Thumb.cpsr_execute`), for the bus it follows from
their stores, and `Machine.effects_of_step` says all of it of every step.
-/

namespace Handheld

/-- Whether the instructions of a class leave the status alone. A load of several registers does
unless it restores the saved status (`Arm.Instruction.restoresStatus`). -/
def InstructionClass.keepsStatus : InstructionClass → Bool
  | load | store | loadMultiple | storeMultiple | swap | branch => true
  | _ => false

namespace RegisterFile

variable (regs : RegisterFile)

/-- Putting a value into a register, `r15` included, is no write of the status. -/
@[simp] theorem cpsr_assign (r : RegNum) (value : Word) :
    (regs.assign r value).cpsr = regs.cpsr := by
  unfold assign
  split <;> rfl

/-- Neither is the write-back of a base. -/
@[simp] theorem cpsr_writeBack (r : RegNum) (address : Word) :
    (regs.writeBack r address).cpsr = regs.cpsr := by
  unfold writeBack
  split <;> rfl

end RegisterFile

/-! ## ARM instructions -/

namespace Arm

/-- Whether an instruction is a load of several registers that makes the saved status current. -/
def Instruction.restoresStatus : Instruction → Bool
  | .blockTransfer load userBank indexing rn registers =>
    BlockOperands.restores ⟨load, userBank, indexing, rn, registers⟩
  | _ => false

/-- An instruction that restores the saved status in this way is a load of several registers. -/
theorem category_of_restoresStatus {instruction : Instruction}
    (restores : instruction.restoresStatus = true) : instruction.category = .loadMultiple := by
  cases instruction with
  | blockTransfer load userBank indexing rn registers =>
      cases load with
      | true => rfl
      | false => cases restores
  | _ => cases restores

/-- What follows a transfer is at most a write-back. -/
@[simp] theorem cpsr_finish (indexing : Indexing) (rn : RegNum) (base offset : Word)
    (regs : RegisterFile) : (indexing.finish rn base offset regs).cpsr = regs.cpsr := by
  unfold Indexing.finish
  split
  · exact regs.cpsr_writeBack rn _
  · rfl

/-- A load of one register keeps the status, since a load of `r15` never changes the instruction set
here. -/
theorem cpsr_finishLoad (indexing : Indexing) (rn rd : RegNum) (base offset value : Word)
    (m : Machine) : (finishLoad indexing rn rd base offset value m).regs.cpsr = m.regs.cpsr :=
  (RegisterFile.cpsr_assign _ rd value).trans (cpsr_finish indexing rn base offset m.regs)

/-- A load of several registers that does not restore the status keeps it. By induction on the
slots, `r15` included. -/
theorem cpsr_loadBlock (userBank : Bool) (slots : List (Word × RegNum)) (bus : Bus)
    (regs : RegisterFile) : (loadBlock false userBank slots bus regs).cpsr = regs.cpsr := by
  unfold loadBlock
  induction slots generalizing regs with
  | nil => rfl
  | cons slot rest ih =>
      refine (ih _).trans ?_
      dsimp only
      split
      · rfl
      · exact cpsr_loadRegister userBank regs slot.2 _

/-- A block transfer keeps the status unless it loads `r15` with the S bit set, which is the return
from an exception. -/
theorem cpsr_blockTransfer {load userBank : Bool} {indexing : Indexing} {rn : RegNum}
    {registers : Half}
    (keeps : BlockOperands.restores ⟨load, userBank, indexing, rn, registers⟩ = false)
    (m : Machine) :
    (blockTransfer load userBank indexing rn registers m).regs.cpsr = m.regs.cpsr := by
  have finished (address : Word) :
      (if indexing.writeBack then m.regs.writeBack rn address else m.regs).cpsr = m.regs.cpsr := by
    split
    · exact m.regs.cpsr_writeBack rn address
    · rfl
  cases load with
  | true =>
      have listed : (indexing.block (read m.regs rn) registers).slots.map (·.2) =
          BlockOperands.listed ⟨true, userBank, indexing, rn, registers⟩ := snd_transferSlots _ _
      rw [BlockOperands.restores, Bool.true_and] at keeps
      unfold blockTransfer
      dsimp only
      rw [if_pos rfl, listed, keeps]
      exact (cpsr_loadBlock _ _ _ _).trans (finished _)
  | false => exact finished _

/-- An ARM instruction of a class that keeps the status keeps it, apart from the block load that
restores it. -/
theorem cpsr_execute {instruction : Instruction} (keeps : instruction.category.keepsStatus = true)
    (plain : instruction.restoresStatus = false) (m : Machine) :
    (instruction.execute m).regs.cpsr = m.regs.cpsr := by
  cases instruction with
  | swap byte rn rd rm => cases byte <;> exact m.regs.cpsr_assign rd _
  | halfwordTransfer load kind indexing rn rd offset =>
      cases load with
      | true => exact cpsr_finishLoad indexing rn rd _ _ _ m
      | false => exact cpsr_finish indexing rn _ _ _
  | singleTransfer load byte indexing rn rd offset =>
      cases load with
      | true => exact cpsr_finishLoad indexing rn rd _ _ _ m
      | false => cases byte <;> exact cpsr_finish indexing rn _ _ _
  | blockTransfer load userBank indexing rn registers => exact cpsr_blockTransfer plain m
  | branch link offset => cases link <;> rfl
  | dataProcessing | mrs | msr | multiply | multiplyLong | branchExchange | softwareInterrupt
  | coprocessor | undefined => cases keeps

end Arm

/-! ## Thumb instructions -/

namespace Thumb

/-- Loading a list of registers keeps the status. -/
theorem cpsr_loadSlots (slots : List (Word × RegNum)) (bus : Bus) (regs : RegisterFile) :
    (loadSlots slots bus regs).cpsr = regs.cpsr := by
  unfold loadSlots
  induction slots generalizing regs with
  | nil => rfl
  | cons slot rest ih => exact (ih _).trans (regs.cpsr_assign slot.2 _)

/-- A Thumb load or store of a unit keeps the status. -/
theorem cpsr_transferUnit (load byte : Bool) (address : Word) (rd : RegNum) (m : Machine) :
    (transferUnit load byte address rd m).regs.cpsr = m.regs.cpsr := by
  cases load with
  | true => exact m.regs.cpsr_assign rd _
  | false => cases byte <;> rfl

/-- So does one of a halfword or a signed unit. -/
theorem cpsr_transferSigned (op : SignedTransfer) (address : Word) (rd : RegNum) (m : Machine) :
    (transferSigned op address rd m).regs.cpsr = m.regs.cpsr := by
  cases op with
  | storeHalfword => rfl
  | loadHalfword | loadSignedByte | loadSignedHalfword => exact m.regs.cpsr_assign rd _

/-- A Thumb transfer of several registers keeps the status, and so does the transfer of an empty
list. -/
theorem cpsr_multipleTransfer (load : Bool) (rb : RegNum) (registers : Byte) (m : Machine) :
    (multipleTransfer load rb registers m).regs.cpsr = m.regs.cpsr := by
  unfold multipleTransfer
  split
  · cases load with
    | true => exact (RegisterFile.cpsr_writeBack _ rb _).trans (m.regs.cpsr_assign .pc _)
    | false => exact RegisterFile.cpsr_writeBack _ rb _
  · cases load with
    | true => exact (cpsr_loadSlots _ _ _).trans (m.regs.cpsr_writeBack rb _)
    | false => exact RegisterFile.cpsr_writeBack _ rb _

/-- A Thumb instruction of a class that keeps the status keeps it. Thumb has no transfer that
restores a saved one. -/
theorem cpsr_execute {instruction : Instruction} (keeps : instruction.category.keepsStatus = true)
    (m : Machine) : (instruction.execute m).regs.cpsr = m.regs.cpsr := by
  cases instruction with
  | pcRelativeLoad rd offset => exact m.regs.cpsr_assign rd _
  | loadStoreRegister load byte ro rb rd => exact cpsr_transferUnit load byte _ rd m
  | loadStoreSigned op ro rb rd => exact cpsr_transferSigned op _ rd m
  | loadStoreImmediate load byte offset rb rd => exact cpsr_transferUnit load byte _ rd m
  | loadStoreHalfword load offset rb rd => exact cpsr_transferSigned _ _ rd m
  | spRelative load rd offset => exact cpsr_transferUnit load false _ rd m
  | pushPop pop link registers =>
      cases pop with
      | true => exact cpsr_loadSlots _ _ _
      | false => rfl
  | multipleTransfer load rb registers => exact cpsr_multipleTransfer load rb registers m
  | conditionalBranch condition offset =>
      show (if condition.passes m.regs.cpsr then branch offset m.regs else m.regs).cpsr = _
      split <;> rfl
  | branch | longBranchHigh | longBranchLow => rfl
  | alu op rs rd => cases op <;> cases keeps
  | moveShifted | addSubtract | immediate | hiRegister | branchExchange | loadAddress | adjustStack
  | softwareInterrupt | undefined => cases keeps

end Thumb

/-! ## One instruction -/

/-- Whether the instruction at `r15` is a load of several registers that makes the saved status
current. -/
def Machine.restoresStatus (m : Machine) : Bool :=
  !m.regs.thumb && (Arm.decode m.fetchWord).instruction.restoresStatus

/-- What the outcome of the instruction at `r15` says of the machine after it. -/
def ExecuteOutcome.Effects (m after : Machine) : ExecuteOutcome → Prop
  | .skipped _ _ => after = ⟨m.regs.setPc (m.fetchAddress + 4), m.bus⟩
  | .trapped _ e _ =>
    after = ⟨(m.regs.setPc (m.fetchAddress + m.regs.instructionSet.width)).enterException e, m.bus⟩
  | .retired _ category _ =>
    (category.stores = false → after.bus = m.bus) ∧
      (category.keepsStatus = true → (category = .loadMultiple → m.restoresStatus = false) →
        after.regs.cpsr = m.regs.cpsr)

namespace Machine

variable {m : Machine}

/-- The outcome of a Thumb step tells what the step did: it trapped and did nothing else, or it did
what its class allows. -/
theorem effects_of_stepThumb (thumb : m.regs.thumb = true) :
    m.stepThumb.1.Effects m m.stepThumb.2 := by
  have set := RegisterFile.instructionSet_of_thumb thumb
  unfold stepThumb
  dsimp only
  split
  · rw [ExecuteOutcome.Effects, fetchAddress, set]
    rfl
  · refine ⟨fun idle => ?_, fun keeps _ => Thumb.cpsr_execute keeps _⟩
    rw [Thumb.bus_execute, Thumb.stores_eq_nil idle]
    rfl

/-- The outcome of an ARM step tells what the step did: it was skipped, trapped and did nothing
else, or did what its class allows. -/
theorem effects_of_stepArm (arm : m.regs.thumb = false) :
    m.stepArm.1.Effects m m.stepArm.2 := by
  have set := RegisterFile.instructionSet_of_arm arm
  unfold stepArm
  dsimp only
  split
  · rw [ExecuteOutcome.Effects, fetchAddress, set]
    rfl
  · split
    · rw [ExecuteOutcome.Effects, fetchAddress, set]
      rfl
    · refine ⟨fun idle => ?_, fun keeps plain => Arm.cpsr_execute keeps ?_ _⟩
      · rw [Arm.bus_execute, Arm.stores_eq_nil idle]
        rfl
      · rw [← Bool.not_eq_true]
        intro restores
        have same := plain (Arm.category_of_restoresStatus restores)
        rw [restoresStatus, arm, restores] at same
        cases same

/-- Every instruction of either set has the effects that its outcome tells, whatever the registers
and the memory: skipped and trapped ones leave the bus alone, and so do those of the classes that do
not store; those that transfer or branch keep the status. -/
theorem effects_of_step (m : Machine) : m.step.1.Effects m m.step.2 := by
  unfold step
  split
  · exact effects_of_stepThumb ‹_›
  · exact effects_of_stepArm (Bool.eq_false_iff.mpr ‹_›)

end Machine

end Handheld
