import Handheld.Proofs.Arm.Encoding
import Handheld.Proofs.Cpu.Step

/-!
# Transfers of status registers

Transfers of status registers share the group of register operations with other instructions. A word
of the group that holds none of those is unallocated and traps if bits 4 and 7 are both set, and is
a transfer of a status register otherwise (`Arm.status_transfer_iff_unmarked`). The bits between the
two are not read, nor is one of the two alone. So words whose bits 4 to 7 are not all zero count as
transfers as well, although no such transfer is allocated (`Arm.status_transfers_not_confined`).
-/

namespace Handheld.Arm

/-- Whether an instruction is one of those that share their group with the transfers of status
registers. -/
def Instruction.isRegisterOperation : Instruction → Bool
  | dataProcessing .. | multiply .. | multiplyLong .. | swap .. | branchExchange ..
  | halfwordTransfer .. => true
  | _ => false

/-- Whether bits 4 and 7 are both set, the mark of multiplications, exchanges with memory and
halfword transfers. -/
def isMarked (word : Word) : Bool := word.getLsbD 7 && word.getLsbD 4

variable (word : Word)

theorem isStatusTransfer_decodeStatusTransfer (operand : StatusOperand) :
    (decodeStatusTransfer word operand).isStatusTransfer = true := by
  unfold decodeStatusTransfer
  dsimp only
  split <;> rfl

theorem decodeRegisterOperation_cases :
    (decodeRegisterOperation word).isRegisterOperation = true ∨
      (decodeRegisterOperation word).isStatusTransfer = true := by
  unfold decodeRegisterOperation
  dsimp only
  split
  · exact Or.inr (isStatusTransfer_decodeStatusTransfer _ _)
  · exact Or.inl rfl

theorem decodeHalfwordTransfer_cases :
    (decodeHalfwordTransfer word).isRegisterOperation = true ∨
      decodeHalfwordTransfer word = .undefined := by
  unfold decodeHalfwordTransfer
  dsimp only
  split
  case h_1 => exact Or.inl rfl
  case h_2 | h_3 =>
    split
    · exact Or.inl rfl
    · exact Or.inr rfl
  case h_4 => exact Or.inr rfl

/-- What the group of register operations holds besides the six kinds: words with both marks, which
are undefined, and all others, which transfer a status. -/
theorem decodeRegisterGroup_cases :
    (decodeRegisterGroup word).isRegisterOperation = true ∨
      (isMarked word = true ∧ decodeRegisterGroup word = .undefined ∨
        isMarked word = false ∧ (decodeRegisterGroup word).isStatusTransfer = true) := by
  unfold decodeRegisterGroup
  split
  case isTrue => exact Or.inl rfl
  split
  case isTrue => exact Or.inl rfl
  split
  case isTrue => exact Or.inl rfl
  split
  case isTrue marked =>
    exact (decodeHalfwordTransfer_cases word).imp_right fun undefined =>
      Or.inl ⟨marked, undefined⟩
  case isFalse unmarked =>
    exact (decodeRegisterOperation_cases word).imp_right fun status =>
      Or.inr ⟨Bool.eq_false_iff.mpr unmarked, status⟩

variable {word}

theorem decodeInstruction_remaining (inGroup : word.extractLsb' 25 3 = 0b000#3)
    (remaining : (decodeInstruction word).isRegisterOperation = false) :
    isMarked word = true ∧ decodeInstruction word = .undefined ∨
      isMarked word = false ∧ (decodeInstruction word).isStatusTransfer = true := by
  unfold decodeInstruction at remaining ⊢
  split at remaining
  case isTrue => cases remaining
  case isFalse notExchange =>
    rw [inGroup] at remaining
    rw [if_neg notExchange, inGroup]
    exact (decodeRegisterGroup_cases word).resolve_left (Bool.eq_false_iff.mp remaining)

theorem trap?_of_isStatusTransfer {instruction : Instruction}
    (status : instruction.isStatusTransfer = true) :
    instruction.trap? = none ∧ instruction.category = .psrTransfer := by
  cases instruction with
  | mrs | msr => exact ⟨rfl, rfl⟩
  | _ => cases status

/-- Of the words in the group of register operations that hold none of those, the marked ones trap
and all others are executed as transfers of a status register. -/
theorem step_remaining {m : Machine} (arm : m.regs.thumb = false)
    (passes : (decode m.fetchWord).condition.passes m.regs.cpsr = true)
    (inGroup : m.fetchWord.extractLsb' 25 3 = 0b000#3)
    (remaining : (decode m.fetchWord).instruction.isRegisterOperation = false) :
    m.step.1 =
      if isMarked m.fetchWord then
        .trapped m.regs.pc .undefinedInstruction InstructionClass.undefined.cycles
      else .retired m.regs.pc .psrTransfer InstructionClass.psrTransfer.cycles := by
  rw [m.step_of_arm arm]
  rcases decodeInstruction_remaining inGroup remaining with
    ⟨marked, undefined⟩ | ⟨unmarked, status⟩
  · have decoded : (decode m.fetchWord).instruction = .undefined := undefined
    have traps : (decode m.fetchWord).instruction.trap? = some .undefinedInstruction := by
      rw [decoded]
      rfl
    rw [m.stepArm_of_trap passes traps, decoded, marked]
    rfl
  · obtain ⟨noTrap, category⟩ := trap?_of_isStatusTransfer status
    have charged : (decode m.fetchWord).instruction.category = .psrTransfer := category
    rw [m.stepArm_of_noTrap passes noTrap, charged, unmarked]
    rfl

/-- A word in the group of register operations that holds none of those is a transfer of a status
register exactly if bits 4 and 7 are not both set, and is unallocated exactly if they are; if its
condition passes it is executed in the one case and traps in the other. -/
theorem status_transfer_iff_unmarked (word : Word) (inGroup : word.extractLsb' 25 3 = 0b000#3)
    (remaining : (decodeInstruction word).isRegisterOperation = false) :
    ((decodeInstruction word).isStatusTransfer = true ↔ isMarked word = false) ∧
      (decodeInstruction word = .undefined ↔ isMarked word = true) ∧
      ∀ m : Machine, m.regs.thumb = false → m.fetchWord = word →
        (decode word).condition.passes m.regs.cpsr = true →
          m.step.1 =
            if isMarked word then
              .trapped m.regs.pc .undefinedInstruction InstructionClass.undefined.cycles
            else .retired m.regs.pc .psrTransfer InstructionClass.psrTransfer.cycles := by
  refine and_assoc.mp ⟨?_, fun m arm fetched passes => ?_⟩
  · rcases decodeInstruction_remaining inGroup remaining with
      ⟨marked, undefined⟩ | ⟨unmarked, status⟩
    · rw [undefined, marked]
      exact ⟨iff_of_false Bool.false_ne_true Bool.false_ne_true.symm, iff_of_true rfl rfl⟩
    · refine ⟨iff_of_true status unmarked, iff_of_false ?_ ?_⟩
      · intro undefined
        rw [undefined] at status
        cases status
      · rw [unmarked]
        exact Bool.false_ne_true
  · subst fetched
    exact step_remaining arm passes inGroup remaining

/-- Bits 4 to 7 of this word hold `0001`, a form in which no transfer of a status register is
allocated. -/
theorem status_transfer_with_bit_four :
    (0xE16F0F11 : Word).extractLsb' 4 4 = 0b0001#4 ∧
      (decodeInstruction 0xE16F0F11).isStatusTransfer = true ∧
      decodeInstruction 0xE16F0F11 ≠ .undefined :=
  have ⟨status, undefined, _⟩ :=
    status_transfer_iff_unmarked 0xE16F0F11 (by decide) (by decide)
  ⟨by decide, status.mpr (by decide), fun trapped => absurd (undefined.mp trapped) (by decide)⟩

/-- Words of the group whose bits 4 to 7 are not all zero are not confined to trapping: one of them
writes every byte of the current status. -/
theorem status_transfers_not_confined :
    ¬ ∀ word : Word, word.extractLsb' 25 3 = 0b000#3 →
      (decodeInstruction word).isRegisterOperation = false →
        ((decodeInstruction word).isStatusTransfer = true → word.extractLsb' 4 4 = 0b0000#4) ∧
          (word.extractLsb' 4 4 ≠ 0b0000#4 → decodeInstruction word = .undefined) := by
  intro confined
  have written : decodeInstruction 0xE12FFF30 = .msr false 0b1111 (.register 0) := by decide
  have unallocated : (0xE12FFF30 : Word).extractLsb' 4 4 ≠ 0b0000#4 := by decide
  have undefined := (confined 0xE12FFF30 (by decide) (by decide)).2 unallocated
  rw [written] at undefined
  cases undefined

end Handheld.Arm
