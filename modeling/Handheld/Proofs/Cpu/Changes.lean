import Handheld.Cpu.Step
import Handheld.Proofs.Cpu.Registers

/-!
# What an instruction can do to the registers

Every instruction that does not trap is made of a few operations on the register file: writes of
registers, of registers of User mode and of status bits that any mode may write, and the three ways
to reach a whole status register (`RegisterFile.Changed`). Whatever survives each of these survives
every instruction (`Arm.changed_execute`, `Thumb.changed_execute`); `Machine.step_spec` lists what
can become of one instruction, traps included.
-/

namespace Handheld

/-- The mode field and the interrupt masks. -/
def Status.privilegedMask : Word := Status.modeMask ||| Status.irqMask ||| Status.fiqMask

/-- The register files that instructions can make of `start`. -/
inductive RegisterFile.Changed (start : RegisterFile) : RegisterFile → Prop
  | unchanged : Changed start start
  | set {regs : RegisterFile} (changed : Changed start regs) (r : RegNum) (value : Word) :
    Changed start (regs.set r value)
  | setUserRegister {regs : RegisterFile} (changed : Changed start regs) (r : RegNum)
    (value : Word) : Changed start (regs.setUserRegister r value)
  /-- Flags and the Thumb bit are written in every mode. -/
  | setFlag {regs : RegisterFile} (changed : Changed start regs) {mask : Word}
    (unprivileged : Status.privilegedMask &&& mask = 0) (value : Bool) :
    Changed start (regs.setFlag mask value)
  | restoreStatus {regs : RegisterFile} (changed : Changed start regs) :
    Changed start regs.restoreStatus
  | writeStatus {regs : RegisterFile} (changed : Changed start regs) (saved : Bool)
    (fields : BitVec 4) (operand : Arm.StatusOperand) :
    Changed start (Arm.writeStatus saved fields operand regs)

namespace RegisterFile.Changed

variable {start regs : RegisterFile}

/-- Changes after changes are changes of the file that one began with. So the effects of parts of an
instruction can be put together. -/
theorem trans {between : RegisterFile} (first : Changed start between)
    (second : Changed between regs) : Changed start regs := by
  induction second with
  | unchanged => exact first
  | set _ r value ih => exact ih.set r value
  | setUserRegister _ r value ih => exact ih.setUserRegister r value
  | setFlag _ unprivileged value ih => exact ih.setFlag unprivileged value
  | restoreStatus _ ih => exact ih.restoreStatus
  | writeStatus _ saved fields operand ih => exact ih.writeStatus saved fields operand

/-- A branch writes `r15`. -/
theorem branchTo (changed : Changed start regs) (target : Word) :
    Changed start (regs.branchTo target) :=
  changed.set .pc _

/-- Every mode may change the instruction set. -/
theorem setThumb (changed : Changed start regs) (value : Bool) :
    Changed start (regs.setThumb value) :=
  changed.setFlag (by decide) value

/-- An assignment is a write of a register or a branch. -/
theorem assign (changed : Changed start regs) (r : RegNum) (value : Word) :
    Changed start (regs.assign r value) := by
  unfold RegisterFile.assign
  split
  · exact changed.branchTo value
  · exact changed.set r value

/-- A base register that takes its final address is written, unless it is `r15`. -/
theorem writeBack (changed : Changed start regs) (r : RegNum) (address : Word) :
    Changed start (regs.writeBack r address) := by
  unfold RegisterFile.writeBack
  split
  · exact changed
  · exact changed.set r address

/-- The two flags of a result are written in every mode. -/
theorem setSignZero (changed : Changed start regs) (value : Word) :
    Changed start (FlagsUpdate.setSignZero regs value) :=
  (changed.setFlag (by decide) _).setFlag (by decide) _

/-- Whichever flags an operation sets, they are flags that every mode may write: no mask, no mode
bit and no Thumb bit is among them. -/
theorem applyFlags (changed : Changed start regs) (update : FlagsUpdate) :
    Changed start (update.apply regs) := by
  cases update with
  | none => exact changed
  | result value => exact changed.setSignZero value
  | logical value carry => exact (changed.setSignZero value).setFlag (by decide) _
  | arithmetic sum =>
      exact ((changed.setSignZero sum.value).setFlag (by decide) _).setFlag (by decide) _
  | long value => exact (changed.setFlag (by decide) _).setFlag (by decide) _

/-- An exception return may or may not be asked for. -/
theorem restoreStatus_if (changed : Changed start regs) (restore : Bool) :
    Changed start (if restore then regs.restoreStatus else regs) := by
  split
  · exact changed.restoreStatus
  · exact changed

end RegisterFile.Changed

open RegisterFile

/-! ## ARM instructions -/

namespace Arm

/-- A data-processing instruction tests, or writes one register and perhaps the flags; with `r15` as
its destination it may also restore the saved status. -/
theorem changed_dataProcessing (opcode : Opcode) (setFlags : Bool) (rn rd : RegNum)
    (operand : Operand) (regs : RegisterFile) :
    Changed regs (dataProcessing opcode setFlags rn rd operand regs) := by
  unfold dataProcessing
  dsimp only
  split
  · exact Changed.unchanged.applyFlags _
  · split
    · exact (Changed.unchanged.restoreStatus_if setFlags).branchTo _
    · split
      · exact (Changed.unchanged.set rd _).applyFlags _
      · exact .set .unchanged rd _

/-- A product goes to one register. -/
theorem changed_multiply (accumulate setFlags : Bool) (rd rn rs rm : RegNum)
    (regs : RegisterFile) : Changed regs (multiply accumulate setFlags rd rn rs rm regs) := by
  unfold multiply
  dsimp only
  split
  · exact (Changed.unchanged.assign rd _).applyFlags _
  · exact Changed.unchanged.assign rd _

/-- A long product goes to two registers, the lower one first, and sets flags if it is asked to. It
reaches nothing else. -/
theorem changed_multiplyLong (signed accumulate setFlags : Bool) (rdHigh rdLow rs rm : RegNum)
    (regs : RegisterFile) :
    Changed regs (multiplyLong signed accumulate setFlags rdHigh rdLow rs rm regs) := by
  unfold multiplyLong
  dsimp only
  split
  · exact ((Changed.unchanged.assign rdLow _).assign rdHigh _).applyFlags _
  · exact (Changed.unchanged.assign rdLow _).assign rdHigh _

/-- A branch may keep the address after it in the link register. -/
theorem changed_branch (link : Bool) (offset : Word) (regs : RegisterFile) :
    Changed regs (branch link offset regs) := by
  unfold branch
  dsimp only
  split
  · exact (Changed.unchanged.set .lr _).branchTo _
  · exact Changed.unchanged.branchTo _

/-- A transfer may move its base. -/
theorem changed_finish (indexing : Indexing) (rn : RegNum) (base offset : Word)
    (regs : RegisterFile) : Changed regs (indexing.finish rn base offset regs) := by
  unfold Indexing.finish
  split
  · exact Changed.unchanged.writeBack rn _
  · exact .unchanged

/-- A load of several registers changes those of the current mode or of User mode, and restores the
status with `r15` where it is asked to. By induction on the slots. -/
theorem changed_loadBlock (restore userBank : Bool) (slots : List (Word × RegNum)) (bus : Bus)
    (regs : RegisterFile) : Changed regs (loadBlock restore userBank slots bus regs) := by
  unfold loadBlock
  induction slots generalizing regs with
  | nil => exact .unchanged
  | cons slot rest ih =>
      refine Changed.trans ?_ (ih _)
      obtain ⟨address, r⟩ := slot
      dsimp only
      split
      · exact (Changed.unchanged.restoreStatus_if restore).branchTo _
      · split
        · exact .setUserRegister .unchanged r _
        · exact .set .unchanged r _

/-- A block transfer writes registers of the current mode or of User mode, and restores the status
if it loads `r15` with the bit for it. -/
theorem changed_blockTransfer (load userBank : Bool) (indexing : Indexing) (rn : RegNum)
    (registers : Half) (m : Machine) :
    Changed m.regs (blockTransfer load userBank indexing rn registers m).regs := by
  have finished (address : Word) : Changed m.regs
      (if indexing.writeBack then m.regs.writeBack rn address else m.regs) := by
    split
    · exact Changed.unchanged.writeBack rn address
    · exact .unchanged
  cases load with
  | true => exact (finished _).trans (changed_loadBlock _ _ _ _ _)
  | false => exact finished _

/-- An ARM instruction that does not trap changes the registers by a few operations, one case for
each form. What these operations can reach is told apart from here on. -/
theorem changed_execute (instruction : Instruction) (m : Machine) :
    Changed m.regs (instruction.execute m).regs := by
  cases instruction with
  | dataProcessing opcode setFlags rn rd operand =>
      exact changed_dataProcessing opcode setFlags rn rd operand m.regs
  | mrs saved rd => exact Changed.unchanged.assign rd _
  | msr saved fields operand => exact .writeStatus .unchanged saved fields operand
  | multiply accumulate setFlags rd rn rs rm =>
      exact changed_multiply accumulate setFlags rd rn rs rm m.regs
  | multiplyLong signed accumulate setFlags rdHigh rdLow rs rm =>
      exact changed_multiplyLong signed accumulate setFlags rdHigh rdLow rs rm m.regs
  | swap byte rn rd rm => cases byte <;> exact Changed.unchanged.assign rd _
  | branchExchange rm => exact (Changed.unchanged.setThumb _).branchTo _
  | halfwordTransfer load kind indexing rn rd offset =>
      cases load with
      | true => exact (changed_finish indexing rn _ _ m.regs).assign rd _
      | false => exact changed_finish indexing rn _ _ m.regs
  | singleTransfer load byte indexing rn rd offset =>
      cases load with
      | true => exact (changed_finish indexing rn _ _ m.regs).assign rd _
      | false => cases byte <;> exact changed_finish indexing rn _ _ m.regs
  | blockTransfer load userBank indexing rn registers =>
      exact changed_blockTransfer load userBank indexing rn registers m
  | branch link offset => exact changed_branch link offset m.regs
  | softwareInterrupt comment => exact .unchanged
  | coprocessor word => exact .unchanged
  | undefined => exact .unchanged

end Arm

/-! ## Thumb instructions -/

namespace Thumb

/-- A sum goes to a register, and all four flags are set. -/
theorem changed_writeSum (rd : RegNum) (sum : Adder.Result) (regs : RegisterFile) :
    Changed regs (writeSum rd sum regs) :=
  (Changed.unchanged.assign rd _).applyFlags _

/-- A logical result goes to a register, and three of the flags are set. -/
theorem changed_writeLogical (rd : RegNum) (value : Word) (carry : Bool) (regs : RegisterFile) :
    Changed regs (writeLogical rd value carry regs) :=
  (Changed.unchanged.assign rd _).applyFlags _

/-- A product goes to a register, and two of the flags are set. -/
theorem changed_writeResult (rd : RegNum) (value : Word) (regs : RegisterFile) :
    Changed regs (writeResult rd value regs) :=
  (Changed.unchanged.assign rd _).applyFlags _

/-- A comparison sets the flags only. -/
theorem changed_compare (a b : Word) (regs : RegisterFile) : Changed regs (compare a b regs) :=
  Changed.unchanged.applyFlags _

/-- The operations between two low registers write one of them, or none if they test, and set flags.
All sixteen are of one of these forms. -/
theorem changed_aluOperation (op : AluOp) (rs rd : RegNum) (regs : RegisterFile) :
    Changed regs (aluOperation op rs rd regs) := by
  cases op with
  | and | eor | orr | bic | mvn | lsl | lsr | asr | ror => exact changed_writeLogical rd _ _ regs
  | adc | sbc | neg => exact changed_writeSum rd _ regs
  | mul => exact changed_writeResult rd _ regs
  | cmp => exact changed_compare _ _ regs
  | tst =>
      exact Changed.unchanged.applyFlags
        (.logical (read regs rd &&& read regs rs) (regs.flag Status.carry))
  | cmn =>
      exact Changed.unchanged.applyFlags
        (.arithmetic (Adder.add (read regs rd) (read regs rs) false))

/-- A load writes one register and a store none. -/
theorem changed_transferUnit (load byte : Bool) (address : Word) (rd : RegNum) (m : Machine) :
    Changed m.regs (transferUnit load byte address rd m).regs := by
  cases load with
  | true => exact Changed.unchanged.assign rd _
  | false => cases byte <;> exact .unchanged

/-- A load of a halfword or a signed byte writes one register, and the store among them none. -/
theorem changed_transferSigned (op : SignedTransfer) (address : Word) (rd : RegNum)
    (m : Machine) : Changed m.regs (transferSigned op address rd m).regs := by
  cases op with
  | storeHalfword => exact .unchanged
  | loadHalfword | loadSignedByte | loadSignedHalfword => exact Changed.unchanged.assign rd _

/-- A list of loads writes one register after the other. -/
theorem changed_loadSlots (slots : List (Word × RegNum)) (bus : Bus) (regs : RegisterFile) :
    Changed regs (loadSlots slots bus regs) := by
  unfold loadSlots
  induction slots generalizing regs with
  | nil => exact .unchanged
  | cons slot rest ih => exact (Changed.unchanged.assign slot.2 _).trans (ih _)

/-- A transfer of several low registers writes those it loads, and its base. With an empty list it
transfers `r15`. -/
theorem changed_multipleTransfer (load : Bool) (rb : RegNum) (registers : Byte) (m : Machine) :
    Changed m.regs (multipleTransfer load rb registers m).regs := by
  unfold multipleTransfer
  split
  · cases load with
    | true => exact (Changed.unchanged.assign .pc _).writeBack rb _
    | false => exact Changed.unchanged.writeBack rb _
  · cases load with
    | true => exact (Changed.unchanged.writeBack rb _).trans (changed_loadSlots _ _ _)
    | false => exact Changed.unchanged.writeBack rb _

/-- A Thumb instruction that does not trap changes the registers by a few operations, the same as
those of ARM. One case for each form. -/
theorem changed_execute (instruction : Instruction) (m : Machine) :
    Changed m.regs (instruction.execute m).regs := by
  cases instruction with
  | moveShifted shift amount rs rd => exact changed_writeLogical rd _ _ m.regs
  | addSubtract subtract operand rs rd => exact changed_writeSum rd _ m.regs
  | immediate op rd value =>
      cases op with
      | mov => exact changed_writeResult rd _ m.regs
      | cmp => exact changed_compare _ _ m.regs
      | add | sub => exact changed_writeSum rd _ m.regs
  | alu op rs rd => exact changed_aluOperation op rs rd m.regs
  | hiRegister op rs rd =>
      cases op with
      | add | mov => exact Changed.unchanged.assign rd _
      | cmp => exact changed_compare _ _ m.regs
  | branchExchange rs => exact (Changed.unchanged.setThumb _).branchTo _
  | pcRelativeLoad rd offset => exact Changed.unchanged.assign rd _
  | loadStoreRegister load byte ro rb rd => exact changed_transferUnit load byte _ rd m
  | loadStoreSigned op ro rb rd => exact changed_transferSigned op _ rd m
  | loadStoreImmediate load byte offset rb rd => exact changed_transferUnit load byte _ rd m
  | loadStoreHalfword load offset rb rd => exact changed_transferSigned _ _ rd m
  | spRelative load rd offset => exact changed_transferUnit load false _ rd m
  | loadAddress fromSp rd offset => exact Changed.unchanged.assign rd _
  | adjustStack offset => exact .set .unchanged .sp _
  | pushPop pops link registers =>
      cases pops with
      | true => exact (changed_loadSlots _ _ m.regs).set .sp _
      | false => exact .set .unchanged .sp _
  | multipleTransfer load rb registers => exact changed_multipleTransfer load rb registers m
  | conditionalBranch condition offset =>
      show Changed m.regs (if condition.passes m.regs.cpsr then branch offset m.regs else m.regs)
      split
      · exact Changed.unchanged.branchTo _
      · exact .unchanged
  | softwareInterrupt comment => exact .unchanged
  | branch offset => exact Changed.unchanged.branchTo _
  | longBranchHigh offset => exact .set .unchanged .lr _
  | longBranchLow offset => exact (Changed.unchanged.set .lr _).branchTo _
  | undefined => exact .unchanged

end Thumb

/-! ## One instruction -/

/-- The exceptions that programs raise themselves. -/
def Exception.raisedByPrograms : Exception → Bool
  | softwareInterrupt | undefinedInstruction => true
  | _ => false

/-- An instruction traps with one of the two exceptions that programs can raise. -/
theorem Arm.raisedByPrograms_of_trap? {instruction : Arm.Instruction} {e : Exception}
    (traps : instruction.trap? = some e) : e.raisedByPrograms = true := by
  cases instruction <;> cases traps <;> rfl

/-- A short instruction traps with one of the same two exceptions. -/
theorem Thumb.raisedByPrograms_of_trap? {instruction : Thumb.Instruction} {e : Exception}
    (traps : instruction.trap? = some e) : e.raisedByPrograms = true := by
  cases instruction <;> cases traps <;> rfl

namespace Machine

/-- What can become of one instruction. -/
inductive Stepped (m : Machine) : ExecuteOutcome × Machine → Prop
  | retired (pc : Word) (category : InstructionClass) (cycles : Nat) {after : Machine}
    (changed : Changed m.regs after.regs) : Stepped m (.retired pc category cycles, after)
  | skipped (pc : Word) (cycles : Nat) {after : Machine} (changed : Changed m.regs after.regs) :
    Stepped m (.skipped pc cycles, after)
  | trapped (pc : Word) {e : Exception} (raised : e.raisedByPrograms = true) (cycles : Nat)
    (set : InstructionSet) :
    Stepped m (.trapped pc e cycles, (m.advance set).mapRegs (·.enterException e))

/-- Moving on to the next instruction writes `r15`. -/
theorem changed_advance (m : Machine) (set : InstructionSet) :
    Changed m.regs (m.advance set).regs :=
  .set .unchanged .pc _

/-- What can become of a short instruction, which no condition skips. -/
theorem stepped_stepThumb (m : Machine) : Stepped m m.stepThumb := by
  unfold stepThumb
  dsimp only
  split
  · rename_i e traps
    exact .trapped _ (Thumb.raisedByPrograms_of_trap? traps) _ .thumb
  · exact .retired _ _ _ ((m.changed_advance .thumb).trans (Thumb.changed_execute _ _))

/-- What can become of an ARM instruction: it is skipped if its condition fails, and otherwise it
raises an exception or is executed. -/
theorem stepped_stepArm (m : Machine) : Stepped m m.stepArm := by
  unfold stepArm
  dsimp only
  split
  · exact .skipped _ _ (m.changed_advance .arm)
  · split
    · rename_i e traps
      exact .trapped _ (Arm.raisedByPrograms_of_trap? traps) _ .arm
    · exact .retired _ _ _ ((m.changed_advance .arm).trans (Arm.changed_execute _ _))

/-- Every instruction retires or is skipped, or enters one of two exceptions. -/
theorem step_spec (m : Machine) : Stepped m m.step := by
  unfold step
  split
  · exact m.stepped_stepThumb
  · exact m.stepped_stepArm

end Machine

end Handheld
