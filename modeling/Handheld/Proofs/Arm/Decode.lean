import Handheld.Proofs.Arm.Encoding

/-!
# The bits that decoding reads

A word can be put together again from its instruction, so two words of one instruction differ in
bits only that the instruction does not read. Those are bits 8 to 11 of a halfword transfer at a
register offset, and no others (`Arm.decode_eq_iff`).
-/

namespace Handheld.Arm

/-- Two words agree in every bit that is not among those from `low` to below `high`. -/
def AgreeOutside (low high : Nat) (first second : Word) : Prop :=
  ∀ place, place < low ∨ high ≤ place → first.getLsbD place = second.getLsbD place

/-- Words that agree outside a range agree in every other bit, since only the bits of a word can
differ. -/
theorem agreeOutside_iff {low high : Nat} {first second : Word} :
    AgreeOutside low high first second ↔
      ∀ place < 32, place < low ∨ high ≤ place → first.getLsbD place = second.getLsbD place := by
  constructor
  · intro agree place _ outside
    exact agree place outside
  · intro agree place outside
    by_cases inWord : place < 32
    · exact agree place inWord outside
    · rw [BitVec.getLsbD_of_ge _ _ (by omega), BitVec.getLsbD_of_ge _ _ (by omega)]

instance (low high : Nat) (first second : Word) : Decidable (AgreeOutside low high first second) :=
  decidable_of_iff' _ agreeOutside_iff

/-- What two words of one instruction have in common: their condition, and all bits that the decoder
reads for this instruction. -/
theorem agree_of_decode_eq {first second : Word} (same : decode first = decode second)
    (allocated : (decode first).instruction ≠ .undefined)
    (general : (decode first).instruction.isStatusTransfer = false) :
    first.extractLsb' 28 4 = second.extractLsb' 28 4 ∧
      first.extractLsb' 0 28 &&& ~~~(decode first).instruction.unreadBits =
        second.extractLsb' 0 28 &&& ~~~(decode first).instruction.unreadBits := by
  have conditions := congrArg (·.condition.field) same
  have instructions : decodeInstruction first = decodeInstruction second :=
    congrArg (·.instruction) same
  obtain ⟨code, encoded⟩ := Instruction.exists_encode allocated general
  have fromFirst := decodeInstruction_reproduces first code encoded
  have fromSecond := decodeInstruction_reproduces second code (instructions ▸ encoded)
  rw [← instructions] at fromSecond
  exact ⟨by simpa [decode] using conditions, fromFirst.symm.trans fromSecond⟩

/-- A word is its condition above the rest. -/
theorem condition_append (word : Word) :
    word.extractLsb' 28 4 ++ word.extractLsb' 0 28 = word :=
  (BitVec.extractLsb'_append_extractLsb'_eq_extractLsb' rfl).trans BitVec.extractLsb'_eq_self

theorem agreeOutside_of_decode_eq {first second : Word} (same : decode first = decode second)
    (allocated : (decode first).instruction ≠ .undefined)
    (general : (decode first).instruction.isStatusTransfer = false) :
    first = second ∨ (decode first).instruction.isHalfwordAtRegister = true ∧
      AgreeOutside 8 12 first second := by
  obtain ⟨conditions, rest⟩ := agree_of_decode_eq same allocated general
  rw [Instruction.unreadBits] at rest
  cases unread : (decode first).instruction.isHalfwordAtRegister with
  | false =>
      have all : ∀ bits : BitVec 28, bits &&& ~~~0#28 = bits := fun _ => BitVec.and_allOnes
      simp only [unread, Bool.false_eq_true, ↓reduceIte, all] at rest
      left
      rw [← condition_append first, ← condition_append second, conditions, rest]
  | true =>
      have read : ∀ place < 28, place < 8 ∨ 12 ≤ place → (~~~0xF00#28).getLsbD place = true := by
        decide
      simp only [unread, ↓reduceIte] at rest
      refine Or.inr ⟨rfl, fun place outside => ?_⟩
      rw [← condition_append first, ← condition_append second, conditions,
        BitVec.getLsbD_append, BitVec.getLsbD_append]
      by_cases low : place < 28
      · have bits := congrArg (·.getLsbD place) rest
        simp only [BitVec.getLsbD_and, read place low outside, Bool.and_true] at bits
        rw [if_pos low, if_pos low, bits]
      · rw [if_neg low, if_neg low]

/-- The words that hold a transfer of a halfword or a signed byte at a register offset, and one
that is not defined. -/
structure IsHalfwordAtRegister (word : Word) : Prop where
  inGroup : word.extractLsb' 25 3 = 0b000#3
  register : word.getLsbD 22 = false
  mark7 : word.getLsbD 7 = true
  mark4 : word.getLsbD 4 = true
  moves : word.extractLsb' 5 2 ≠ 0b00#2

variable {word : Word}

namespace IsHalfwordAtRegister

theorem decodeInstruction_eq (shape : IsHalfwordAtRegister word) :
    decodeInstruction word = decodeHalfwordTransfer word := by
  have notExchange : ¬ word &&& 0x0FFFFFF0 = 0x012FFF10 := fun exchange => by
    have bit7 : word.extractLsb' 7 1 = 0#1 := Word.field_of_masked exchange rfl
    rw [← word.ofBool_getLsbD, shape.mark7] at bit7
    cases bit7
  have notMultiply : ¬ word &&& 0x0FC000F0 = 0x00000090 := fun multiply =>
    shape.moves (Word.field_of_masked multiply rfl)
  have notLong : ¬ word &&& 0x0F8000F0 = 0x00800090 := fun long =>
    shape.moves (Word.field_of_masked long rfl)
  have notSwap : ¬ word &&& 0x0FB00FF0 = 0x01000090 := fun swap =>
    shape.moves (Word.field_of_masked swap rfl)
  rw [decodeInstruction, if_neg notExchange, shape.inGroup]
  show decodeRegisterGroup word = _
  rw [decodeRegisterGroup, if_neg notMultiply, if_neg notLong, if_neg notSwap, shape.mark7,
    shape.mark4]
  rfl

end IsHalfwordAtRegister

theorem not_isHalfwordAtRegister_decodeStatusTransfer (word : Word) (operand : StatusOperand) :
    ¬ (decodeStatusTransfer word operand).isHalfwordAtRegister = true := by
  unfold decodeStatusTransfer
  dsimp only
  split <;> exact Bool.false_ne_true

theorem not_isHalfwordAtRegister_decodeRegisterOperation (word : Word) :
    ¬ (decodeRegisterOperation word).isHalfwordAtRegister = true := by
  unfold decodeRegisterOperation
  dsimp only
  split
  · exact not_isHalfwordAtRegister_decodeStatusTransfer _ _
  · exact Bool.false_ne_true

theorem not_isHalfwordAtRegister_decodeImmediateGroup (word : Word) :
    ¬ (decodeImmediateGroup word).isHalfwordAtRegister = true := by
  unfold decodeImmediateGroup
  dsimp only
  split
  · split
    · exact not_isHalfwordAtRegister_decodeStatusTransfer _ _
    · exact Bool.false_ne_true
  · exact Bool.false_ne_true

theorem fields_of_decodeHalfwordTransfer
    (transfer : (decodeHalfwordTransfer word).isHalfwordAtRegister = true) :
    word.getLsbD 22 = false ∧ word.extractLsb' 5 2 ≠ 0b00#2 := by
  constructor
  · cases addressed : word.getLsbD 22 with
    | false => rfl
    | true =>
        rw [decodeHalfwordTransfer, addressed] at transfer
        dsimp only at transfer
        split at transfer <;> try cases transfer
        all_goals split at transfer <;> cases transfer
  · intro unmoved
    rw [decodeHalfwordTransfer, unmoved] at transfer
    cases transfer

theorem isHalfwordAtRegister_of_decode
    (transfer : (decodeInstruction word).isHalfwordAtRegister = true) :
    IsHalfwordAtRegister word := by
  unfold decodeInstruction at transfer
  split at transfer
  case isTrue => cases transfer
  split at transfer
  case h_1 inGroup =>
    unfold decodeRegisterGroup at transfer
    split at transfer
    case isTrue => cases transfer
    split at transfer
    case isTrue => cases transfer
    split at transfer
    case isTrue => cases transfer
    split at transfer
    case isTrue marked =>
      obtain ⟨mark7, mark4⟩ := (Bool.and_eq_true _ _).mp marked
      obtain ⟨register, moves⟩ := fields_of_decodeHalfwordTransfer transfer
      exact ⟨inGroup, register, mark7, mark4, moves⟩
    case isFalse =>
      exact absurd transfer (not_isHalfwordAtRegister_decodeRegisterOperation word)
  case h_2 => exact absurd transfer (not_isHalfwordAtRegister_decodeImmediateGroup word)
  case h_4 => split at transfer <;> cases transfer
  case h_8 => split at transfer <;> cases transfer
  all_goals cases transfer

/-- Fields that lie outside the range in which words may differ are the same in both. -/
theorem AgreeOutside.field {low high : Nat} {first second : Word}
    (agree : AgreeOutside low high first second) {start length : Nat}
    (outside : start + length ≤ low ∨ high ≤ start) :
    first.extractLsb' start length = second.extractLsb' start length := by
  ext i bound
  rw [BitVec.getElem_extractLsb', BitVec.getElem_extractLsb']
  exact agree (start + i) (by omega)

/-- Words that differ in unread bits decode to the same instruction, since the decoder takes the
same way for both. -/
theorem decode_eq_of_agreeOutside {first second : Word}
    (transfer : (decode first).instruction.isHalfwordAtRegister = true)
    (agree : AgreeOutside 8 12 first second) : decode first = decode second := by
  have shape := isHalfwordAtRegister_of_decode transfer
  have field (start length : Nat) (outside : start + length ≤ 8 ∨ 12 ≤ start) :
      second.extractLsb' start length = first.extractLsb' start length :=
    (agree.field outside).symm
  have bit (place : Nat) (outside : place < 8 ∨ 12 ≤ place) :
      second.getLsbD place = first.getLsbD place := (agree place outside).symm
  have others : IsHalfwordAtRegister second := by
    constructor
    · rw [field 25 3 (by omega), shape.inGroup]
    · rw [bit 22 (by omega), shape.register]
    · rw [bit 7 (by omega), shape.mark7]
    · rw [bit 4 (by omega), shape.mark4]
    · rw [field 5 2 (by omega)]
      exact shape.moves
  have instructions : decodeInstruction first = decodeInstruction second := by
    rw [shape.decodeInstruction_eq, others.decodeInstruction_eq]
    simp only [decodeHalfwordTransfer, Indexing.ofWord, registerAt, shape.register,
      others.register]
    rw [bit 20 (by omega), bit 21 (by omega), bit 23 (by omega), bit 24 (by omega),
      field 16 4 (by omega), field 12 4 (by omega), field 0 4 (by omega), field 5 2 (by omega)]
    rfl
  rw [decode, decode, instructions, field 28 4 (by omega)]

/-- Decoding loses no bit that means anything. Two words of an allocated instruction that does not
transfer a status register are decoded alike exactly if they are the same word, or if both hold a
transfer of a halfword at a register offset and they differ nowhere but in bits 8 to 11. -/
theorem decode_eq_iff {first second : Word} (allocated : (decode first).instruction ≠ .undefined)
    (general : (decode first).instruction.isStatusTransfer = false) :
    decode first = decode second ↔
      first = second ∨ (decode first).instruction.isHalfwordAtRegister = true ∧
        AgreeOutside 8 12 first second := by
  constructor
  · intro same
    exact agreeOutside_of_decode_eq same allocated general
  · rintro (same | ⟨transfer, agree⟩)
    · rw [same]
    · exact decode_eq_of_agreeOutside transfer agree

/-- Two words of one load of a halfword. -/
theorem halfword_load_decoded_alike :
    (0xE19100B2 : Word) ≠ 0xE1910FB2 ∧ decode 0xE19100B2 = decode 0xE1910FB2 :=
  ⟨by decide, (decode_eq_iff (by decide) (by decide)).mpr (Or.inr ⟨by decide, by decide⟩)⟩

end Handheld.Arm
