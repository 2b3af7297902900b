import Handheld.Arm.Execute
import Handheld.Proofs.Cpu.WellFormed

/-!
# ARM instructions keep the registers well formed

One lemma for each kind of instruction, and `Arm.wellFormed_execute` for all of them. The
instructions that can change the Thumb bit write `r15` afterwards, and what is read from a saved
status passes through `setCpsr`, which keeps the mode field valid.
-/

namespace Handheld.Arm

open RegisterFile

variable {regs : RegisterFile} {m : Machine}

/-- Data processing keeps a register file well formed, also when it writes `r15` and restores the
saved status with it. Then the address is aligned for the instruction set that is restored. -/
theorem wellFormed_dataProcessing (wellFormed : WellFormed regs) (opcode : Opcode)
    (setFlags : Bool) (rn rd : RegNum) (operand : Operand) :
    WellFormed (dataProcessing opcode setFlags rn rd operand regs) := by
  unfold dataProcessing
  dsimp only
  split
  · exact wellFormed.applyFlags _
  · split
    · have named : NamesMode (if setFlags then regs.restoreStatus else regs) := by
        split
        · exact wellFormed.namesMode.restoreStatus
        · exact wellFormed.namesMode
      exact named.branchTo _
    · have written := wellFormed.set ‹_›
      split
      · exact (written _).applyFlags _
      · exact written _

/-- Replacing masked bits is not seen under a disjoint mask. -/
theorem blend_and_of_disjoint {mask other : Word} (disjoint : other &&& mask = 0)
    (old new : Word) : blend mask old new &&& other = old &&& other := by
  rw [blend, Status.or_and_of_disjoint (Status.and_and_of_disjoint disjoint new),
    Status.clear_and_of_disjoint disjoint]

/-- A write of the current status keeps its Thumb bit. -/
theorem blend_and_thumb (allowed old new : Word) :
    blend (allowed &&& ~~~Status.thumb) old new &&& Status.thumb = old &&& Status.thumb := by
  have apart : Status.thumb &&& ~~~Status.thumb = 0 := by decide
  exact blend_and_of_disjoint (Status.and_and_of_disjoint apart allowed) old new

/-- A transfer to the status keeps the mode field that of a mode, since a field that names none is
not taken. -/
theorem wellFormed_writeStatus (wellFormed : WellFormed regs) (saved : Bool)
    (fields : BitVec 4) (operand : StatusOperand) :
    WellFormed (writeStatus saved fields operand regs) := by
  unfold writeStatus
  dsimp only
  split
  · split
    · exact wellFormed.setSpsr _
    · exact wellFormed
  · exact wellFormed.setCpsr (blend_and_thumb _ _ _)

/-- A multiplication writes a register and flags. -/
theorem wellFormed_multiply (wellFormed : WellFormed regs) (accumulate setFlags : Bool)
    (rd rn rs rm : RegNum) : WellFormed (multiply accumulate setFlags rd rn rs rm regs) := by
  unfold multiply
  dsimp only
  split
  · exact (wellFormed.assign _ _).applyFlags _
  · exact wellFormed.assign _ _

/-- A long multiplication writes two registers, of which `r15` would be aligned as the target of a
branch, and flags. -/
theorem wellFormed_multiplyLong (wellFormed : WellFormed regs)
    (signed accumulate setFlags : Bool) (rdHigh rdLow rs rm : RegNum) :
    WellFormed (multiplyLong signed accumulate setFlags rdHigh rdLow rs rm regs) := by
  unfold multiplyLong
  dsimp only
  have written := fun low high => (wellFormed.assign rdLow low).assign rdHigh high
  split
  · exact (written _ _).applyFlags _
  · exact written _ _

/-- `BX` aligns its target for the instruction set that it selects. -/
theorem wellFormed_branchExchange (wellFormed : WellFormed regs) (rm : RegNum) :
    WellFormed (branchExchange rm regs) :=
  (wellFormed.namesMode.setFlag Status.thumb (by decide) _).branchTo _

/-- A branch aligns its target, and may leave a return address in `lr`. -/
theorem wellFormed_branch (wellFormed : WellFormed regs) (link : Bool) (offset : Word) :
    WellFormed (branch link offset regs) := by
  unfold branch
  dsimp only
  split
  · exact (wellFormed.set (by decide) _).namesMode.branchTo _
  · exact wellFormed.namesMode.branchTo _

/-- The write-back of a transfer does not reach `r15`. -/
theorem wellFormed_finish (wellFormed : WellFormed regs) (indexing : Indexing) (rn : RegNum)
    (base offset : Word) : WellFormed (indexing.finish rn base offset regs) := by
  unfold Indexing.finish
  split
  · exact wellFormed.writeBack rn _
  · exact wellFormed

theorem regs_storeUnit (m : Machine) (byte : Bool) (address value : Word) :
    (m.storeUnit byte address value).regs = m.regs := by
  cases byte <;> rfl

/-- A swap stores and loads one register. -/
theorem wellFormed_swap (wellFormed : WellFormed m.regs) (byte : Bool) (rn rd rm : RegNum) :
    WellFormed (swap byte rn rd rm m).regs := by
  unfold swap
  dsimp only [Machine.assign, Machine.mapRegs]
  rw [regs_storeUnit]
  exact wellFormed.assign rd _

/-- A single transfer may load `r15`, which is aligned first, and may write its base back, which is
never `r15`. -/
theorem wellFormed_singleTransfer (wellFormed : WellFormed m.regs) (load byte : Bool)
    (indexing : Indexing) (rn rd : RegNum) (offset : TransferOffset) :
    WellFormed (singleTransfer load byte indexing rn rd offset m).regs := by
  unfold singleTransfer finishLoad
  dsimp only [Machine.mapRegs]
  split
  · exact (wellFormed_finish wellFormed indexing rn _ _).assign rd _
  · rw [regs_storeUnit]
    exact wellFormed_finish wellFormed indexing rn _ _

/-- A transfer of a halfword or a signed unit may load `r15` as well, which is aligned first. -/
theorem wellFormed_halfwordTransfer (wellFormed : WellFormed m.regs) (load : Bool)
    (kind : HalfwordKind) (indexing : Indexing) (rn rd : RegNum) (offset : HalfwordOffset) :
    WellFormed (halfwordTransfer load kind indexing rn rd offset m).regs := by
  unfold halfwordTransfer finishLoad
  dsimp only [Machine.mapRegs, Machine.storeHalf]
  split
  · exact (wellFormed_finish wellFormed indexing rn _ _).assign rd _
  · exact wellFormed_finish wellFormed indexing rn _ _

/-- A block load ends aligned: the status comes back before `r15` is written, so that the address is
aligned for the set it is used in. By induction on the slots. -/
theorem wellFormed_loadBlock (restore userBank : Bool) (slots : List (Word × RegNum)) (bus : Bus)
    (wellFormed : WellFormed regs) : WellFormed (loadBlock restore userBank slots bus regs) := by
  unfold loadBlock
  induction slots generalizing regs with
  | nil => exact wellFormed
  | cons slot rest ih =>
      obtain ⟨address, r⟩ := slot
      rw [List.foldl_cons]
      apply ih
      dsimp only
      split
      · have named : NamesMode (if restore then regs.restoreStatus else regs) := by
          split
          · exact wellFormed.namesMode.restoreStatus
          · exact wellFormed.namesMode
        exact named.branchTo _
      · split
        · exact wellFormed.setUserRegister ‹_› _
        · exact wellFormed.set ‹_› _

/-- A block transfer keeps a register file well formed in all its forms: with `r15`, with user
registers, and with a status that is restored. -/
theorem wellFormed_blockTransfer (wellFormed : WellFormed m.regs) (load userBank : Bool)
    (indexing : Indexing) (rn : RegNum) (registers : Half) :
    WellFormed (blockTransfer load userBank indexing rn registers m).regs := by
  have finished (address : Word) : WellFormed
      (if indexing.writeBack then m.regs.writeBack rn address else m.regs) := by
    split
    · exact wellFormed.writeBack rn address
    · exact wellFormed
  unfold blockTransfer
  dsimp only [Machine.mapRegs, Machine.storeWords]
  split
  · exact wellFormed_loadBlock _ _ _ _ (finished _)
  · exact finished _

/-- Every ARM instruction keeps the registers well formed. One case for each form, and those that
may write `r15` align it. -/
theorem wellFormed_execute (instruction : Instruction) (wellFormed : WellFormed m.regs) :
    WellFormed (instruction.execute m).regs := by
  cases instruction with
  | dataProcessing opcode setFlags rn rd operand =>
      exact wellFormed_dataProcessing wellFormed opcode setFlags rn rd operand
  | mrs saved rd => exact wellFormed.assign rd _
  | msr saved fields operand => exact wellFormed_writeStatus wellFormed saved fields operand
  | multiply accumulate setFlags rd rn rs rm =>
      exact wellFormed_multiply wellFormed accumulate setFlags rd rn rs rm
  | multiplyLong signed accumulate setFlags rdHigh rdLow rs rm =>
      exact wellFormed_multiplyLong wellFormed signed accumulate setFlags rdHigh rdLow rs rm
  | swap byte rn rd rm => exact wellFormed_swap wellFormed byte rn rd rm
  | branchExchange rm => exact wellFormed_branchExchange wellFormed rm
  | halfwordTransfer load kind indexing rn rd offset =>
      exact wellFormed_halfwordTransfer wellFormed load kind indexing rn rd offset
  | singleTransfer load byte indexing rn rd offset =>
      exact wellFormed_singleTransfer wellFormed load byte indexing rn rd offset
  | blockTransfer load userBank indexing rn registers =>
      exact wellFormed_blockTransfer wellFormed load userBank indexing rn registers
  | branch link offset => exact wellFormed_branch wellFormed link offset
  | softwareInterrupt comment => exact wellFormed
  | coprocessor word => exact wellFormed
  | undefined => exact wellFormed

end Handheld.Arm
