import Handheld.Arm.Decode
import Handheld.Thumb.Decode
import Mathlib.Algebra.Group.Nat.Defs

/-!
# Offsets from the program counter

Branches have their offset in instructions, and loads relative to `r15` in words. In bytes it is a
multiple of that width in every decoded instruction (`Arm.scaled_decodeInstruction`,
`Thumb.scaled_decode`).
-/

namespace Handheld

/-- Zeros below a field stay there when the field is extended with its sign, so that the offset is a
multiple of their power of two. -/
theorem toNat_signExtend_append_mod {width : Nat} (field : BitVec width) (count : Nat) :
    ((field ++ BitVec.ofNat count 0).signExtend 32).toNat % 2 ^ count = 0 := by
  refine Nat.eq_of_testBit_eq fun i => ?_
  rw [Nat.testBit_mod_two_pow, Nat.zero_testBit]
  by_cases low : i < count
  · have bit : ((field ++ BitVec.ofNat count 0).signExtend 32).getLsbD i = false := by
      rw [BitVec.getLsbD_signExtend, if_pos (by omega), BitVec.getLsbD_append, if_pos low,
        BitVec.getLsbD_zero, Bool.and_false]
    rw [← BitVec.getLsbD, bit, Bool.and_false]
  · rw [decide_eq_false low, Bool.false_and]

/-! ## ARM instructions -/

namespace Arm

/-- The offset of a branch is one of whole instructions. -/
def Instruction.Scaled : Instruction → Prop
  | branch _ offset => offset.toNat % 4 = 0
  | _ => True

/-- There is no branch in the register group of ARM. -/
theorem scaled_decodeRegisterGroup (word : Word) : (decodeRegisterGroup word).Scaled := by
  unfold decodeRegisterGroup decodeHalfwordTransfer decodeRegisterOperation decodeStatusTransfer
  dsimp only
  repeat' split
  all_goals trivial

end Arm

/-! ## Thumb instructions -/

namespace Thumb

/-- The offset of a branch is one of whole instructions, and that of a load relative to `r15` one of
whole words. -/
def Instruction.Scaled : Instruction → Prop
  | branch offset | conditionalBranch _ offset => offset.toNat % 2 = 0
  | pcRelativeLoad _ offset => offset.toNat % 4 = 0
  | _ => True

/-- A word offset is decoded with two zero bits below its field. -/
theorem toNat_wordOffset_mod (half : Half) : (wordOffset half).toNat % 4 = 0 := by
  have low : (0b00#2).toNat = 0 := rfl
  rw [wordOffset, toNat_append_eq_add, Nat.shiftLeft_eq, low]
  omega

/-- There are no such offsets in the shift group of Thumb. -/
theorem scaled_decodeShiftGroup (half : Half) : (decodeShiftGroup half).Scaled := by
  unfold decodeShiftGroup
  dsimp only
  split <;> trivial

/-- In the register group the load relative to `r15` has an offset in words. Nothing else there is
relative to it. -/
theorem scaled_decodeRegisterGroup (half : Half) : (decodeRegisterGroup half).Scaled := by
  unfold decodeRegisterGroup decodeRegisterTransfer decodeHiRegister
  dsimp only
  split
  · split <;> trivial
  · split
    · exact toNat_wordOffset_mod half
    · split
      · split <;> trivial
      · trivial

theorem scaled_decodeAddressGroup (half : Half) : (decodeAddressGroup half).Scaled := by
  unfold decodeAddressGroup
  dsimp only
  repeat' split
  all_goals trivial

/-- Conditional branches are decoded with a zero bit below their field. The multiple transfers of
the group have no offset. -/
theorem scaled_decodeMultipleGroup (half : Half) : (decodeMultipleGroup half).Scaled := by
  unfold decodeMultipleGroup
  split
  · split
    · trivial
    · trivial
    · exact toNat_signExtend_append_mod (half.extractLsb' 0 8) 1
  · trivial

/-- So are the other branches. The two halves of a long one carry no whole offset. -/
theorem scaled_decodeBranchGroup (half : Half) : (decodeBranchGroup half).Scaled := by
  unfold decodeBranchGroup
  dsimp only
  split
  · exact toNat_signExtend_append_mod (half.extractLsb' 0 11) 1
  all_goals trivial

/-- Whatever a Thumb halfword decodes to, its offset is one of whole units. One case for each group
of the decoder. -/
theorem scaled_decode (half : Half) : (decode half).Scaled := by
  unfold decode
  dsimp only
  split
  case h_1 => exact scaled_decodeShiftGroup half
  case h_2 | h_4 => trivial
  case h_3 => exact scaled_decodeRegisterGroup half
  case h_5 => split <;> trivial
  case h_6 => exact scaled_decodeAddressGroup half
  case h_7 => exact scaled_decodeMultipleGroup half
  case h_8 => exact scaled_decodeBranchGroup half

end Thumb

end Handheld
