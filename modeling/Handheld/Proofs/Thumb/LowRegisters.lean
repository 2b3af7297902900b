import Handheld.Thumb.Decode
import Handheld.Cpu.Machine

/-!
# The low registers of Thumb instructions

Most fields for a register have three bits in a halfword, and the lists of registers have eight: a
decoded instruction names a register above `r7` only where its form spells it out
(`Thumb.lowRegisters_decode`, `Thumb.allLow_listedRegisters`).
-/

namespace Handheld

/-- A register of three bits is none of the stack pointer, the link register and `r15`. -/
theorem RegNum.ne_of_low {r high : RegNum} (low : r.val < 8) (above : 8 ≤ high.val) : r ≠ high := by
  intro same
  rw [same] at low
  exact absurd low (Nat.not_lt.mpr above)

namespace Thumb

/-- The registers an instruction names by fields of three bits. -/
def Instruction.lowRegisters : Instruction → List RegNum
  | moveShifted _ _ rs rd | alu _ rs rd => [rs, rd]
  | addSubtract _ (.register rn) rs rd => [rn, rs, rd]
  | addSubtract _ (.immediate _) rs rd => [rs, rd]
  | immediate _ rd _ | pcRelativeLoad rd _ | spRelative _ rd _ | loadAddress _ rd _ => [rd]
  | loadStoreRegister _ _ ro rb rd | loadStoreSigned _ ro rb rd => [ro, rb, rd]
  | loadStoreImmediate _ _ _ rb rd | loadStoreHalfword _ _ rb rd => [rb, rd]
  | multipleTransfer _ rb _ => [rb]
  | hiRegister .. | branchExchange _ | adjustStack _ | pushPop .. | conditionalBranch ..
  | softwareInterrupt _ | branch _ | longBranchHigh _ | longBranchLow _ | undefined => []

/-- A field of three bits names a low register. -/
@[simp] theorem lowRegisterAt_lt (half : Half) (start : Nat) :
    (lowRegisterAt half start).val < 8 := by
  have bound := (half.extractLsb' start 3).isLt
  show ((half.extractLsb' start 3).setWidth 4).toNat < 8
  rw [BitVec.toNat_setWidth_of_le (by decide)]
  exact bound

/-- Every register in the list has a number below eight. -/
def AllLow (registers : List RegNum) : Prop := ∀ r ∈ registers, r.val < 8

@[simp] theorem allLow_nil : AllLow [] := fun _ member => absurd member List.not_mem_nil

@[simp] theorem allLow_cons (r : RegNum) (rest : List RegNum) :
    AllLow (r :: rest) ↔ r.val < 8 ∧ AllLow rest := List.forall_mem_cons

/-- The shift group has fields of three bits only. -/
theorem lowRegisters_decodeShiftGroup (half : Half) :
    AllLow (decodeShiftGroup half).lowRegisters := by
  unfold decodeShiftGroup
  dsimp only
  split
  · split <;> simp [Instruction.lowRegisters]
  · simp [Instruction.lowRegisters]

/-- The register group has fields of three bits. Its operations on high registers have longer ones,
and these do not count as low. -/
theorem lowRegisters_decodeRegisterGroup (half : Half) :
    AllLow (decodeRegisterGroup half).lowRegisters := by
  unfold decodeRegisterGroup decodeRegisterTransfer decodeHiRegister
  dsimp only
  split
  · split <;> simp [Instruction.lowRegisters]
  · split
    · simp [Instruction.lowRegisters]
    · split
      · split <;> exact allLow_nil
      · simp [Instruction.lowRegisters]

/-- The address group has fields of three bits, and the stack pointer and `r15` as implied bases,
which are not fields. -/
theorem lowRegisters_decodeAddressGroup (half : Half) :
    AllLow (decodeAddressGroup half).lowRegisters := by
  unfold decodeAddressGroup
  dsimp only
  split
  · simp [Instruction.lowRegisters]
  · split
    · exact allLow_nil
    · split <;> exact allLow_nil

/-- The base of a multiple transfer is a low register. -/
theorem lowRegisters_decodeMultipleGroup (half : Half) :
    AllLow (decodeMultipleGroup half).lowRegisters := by
  unfold decodeMultipleGroup
  split
  · split <;> exact allLow_nil
  · simp [Instruction.lowRegisters]

/-- Branches name no register. -/
theorem lowRegisters_decodeBranchGroup (half : Half) :
    AllLow (decodeBranchGroup half).lowRegisters := by
  unfold decodeBranchGroup
  dsimp only
  split <;> exact allLow_nil

/-- A field of three bits of a decoded instruction names one of the registers `r0` to `r7`. One case
for each group of the decoder. -/
theorem lowRegisters_decode (half : Half) : AllLow (decode half).lowRegisters := by
  unfold decode
  dsimp only
  split
  · exact lowRegisters_decodeShiftGroup half
  · simp [Instruction.lowRegisters]
  · exact lowRegisters_decodeRegisterGroup half
  · simp [Instruction.lowRegisters]
  · split <;> simp [Instruction.lowRegisters]
  · exact lowRegisters_decodeAddressGroup half
  · exact lowRegisters_decodeMultipleGroup half
  · exact lowRegisters_decodeBranchGroup half

/-- A list of eight bits lists registers `r0` to `r7` only. -/
theorem allLow_listedRegisters (registers : Byte) :
    AllLow (listedRegisters (registers.setWidth 16)) := by
  intro r member
  have listed := (List.mem_filter.mp member).2
  rw [BitVec.getLsbD_setWidth, Bool.and_eq_true] at listed
  exact BitVec.lt_of_getLsbD listed.2

end Thumb

end Handheld
