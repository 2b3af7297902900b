import Handheld.Cpu.InstructionSet

/-!
# Aligned addresses

Rounding an address down to a width clears its lowest bits. `InstructionSet.align_eq_self_iff` says
which addresses are aligned, `InstructionSet.toNat_add_mod` that their sums are, and
`InstructionSet.align_add_width` that the instruction after an aligned one is aligned.
-/

namespace Handheld

namespace Word

/-- Clearing the lowest bits of an address shifts them out and back, so that it can be computed with
numbers. -/
theorem and_allOnes_shiftLeft (address : Word) (count : Nat) :
    address &&& (BitVec.allOnes 32 <<< count) = address >>> count <<< count := by
  ext i bound
  simp only [BitVec.getElem_and, BitVec.getElem_shiftLeft, BitVec.getElem_ushiftRight,
    BitVec.getElem_allOnes]
  by_cases low : i < count
  · simp only [low, decide_true, Bool.not_true, Bool.false_and, Bool.and_false]
  · have back : count + (i - count) = i := by omega
    simp only [low, decide_false, Bool.not_false, Bool.and_true, Bool.true_and, back,
      BitVec.getLsbD_eq_getElem bound]

/-- Clearing the lowest bits is rounding down to a power of two. -/
theorem toNat_and_allOnes_shiftLeft (address : Word) (count : Nat) :
    (address &&& (BitVec.allOnes 32 <<< count)).toNat = address.toNat >>> count <<< count := by
  have small : address.toNat >>> count <<< count < 2 ^ 32 := by
    rw [Nat.shiftRight_eq_div_pow, Nat.shiftLeft_eq]
    exact Nat.lt_of_le_of_lt (Nat.div_mul_le_self _ _) address.isLt
  rw [and_allOnes_shiftLeft, BitVec.toNat_shiftLeft, BitVec.toNat_ushiftRight,
    Nat.mod_eq_of_lt small]

/-- Aligning for a halfword rounds down to an even address. -/
theorem toNat_alignHalf (address : Word) : address.alignHalf.toNat = address.toNat / 2 * 2 :=
  (toNat_and_allOnes_shiftLeft address 1).trans (Nat.shiftLeft_eq _ _)

/-- Aligning for a word rounds down to a multiple of four. -/
theorem toNat_alignWord (address : Word) : address.alignWord.toNat = address.toNat / 4 * 4 := by
  have shifted := toNat_and_allOnes_shiftLeft address 2
  rw [Nat.shiftRight_eq_div_pow, Nat.shiftLeft_eq] at shifted
  exact shifted

/-- The address of a byte of an aligned halfword. -/
theorem toNat_alignHalf_or (address : Word) {lane : Word} (inHalf : lane.toNat < 2) :
    (address.alignHalf ||| lane).toNat = address.alignHalf.toNat + lane.toNat := by
  rw [BitVec.toNat_or, toNat_alignHalf, Nat.mul_comm]
  exact (Nat.two_pow_add_eq_or_of_lt (i := 1) inHalf _).symm

/-- The address of a byte of an aligned word. -/
theorem toNat_alignWord_or (address : Word) {lane : Word} (inWord : lane.toNat < 4) :
    (address.alignWord ||| lane).toNat = address.alignWord.toNat + lane.toNat := by
  rw [BitVec.toNat_or, toNat_alignWord, Nat.mul_comm]
  exact (Nat.two_pow_add_eq_or_of_lt (i := 2) inWord _).symm

theorem alignHalf_eq_self_iff (address : Word) :
    address.alignHalf = address ↔ address.toNat % 2 = 0 := by
  rw [← BitVec.toNat_inj, toNat_alignHalf]
  omega

theorem alignWord_eq_self_iff (address : Word) :
    address.alignWord = address ↔ address.toNat % 4 = 0 := by
  rw [← BitVec.toNat_inj, toNat_alignWord]
  omega

/-- An even address marked in its lowest bit is rounded down to itself. -/
theorem alignHalf_marked {address : Word} (even : address.toNat % 2 = 0) :
    (address ||| 1).alignHalf = address := by
  have marked := toNat_alignHalf_or address (by decide : (1 : Word).toNat < 2)
  rw [(alignHalf_eq_self_iff address).mpr even] at marked
  rw [← BitVec.toNat_inj, toNat_alignHalf, marked]
  show (address.toNat + 1) / 2 * 2 = _
  omega

end Word

namespace InstructionSet

/-- Either width divides the size of the address space. -/
theorem toNat_width (set : InstructionSet) : set.width.toNat = 4 ∨ set.width.toNat = 2 := by
  cases set with
  | arm => exact Or.inl rfl
  | thumb => exact Or.inr rfl

/-- Addresses wrap around at a multiple of either width, so sums of aligned ones are aligned, also
where they wrap. -/
theorem toNat_add_mod (set : InstructionSet) {first second : Word}
    (firstAligned : first.toNat % set.width.toNat = 0)
    (secondAligned : second.toNat % set.width.toNat = 0) :
    (first + second).toNat % set.width.toNat = 0 := by
  rw [BitVec.toNat_add]
  rcases set.toNat_width with width | width <;>
    rw [width] at firstAligned secondAligned ⊢ <;> omega

/-- A number of instructions takes a number of bytes that the width divides, also where it wraps
around. -/
theorem toNat_width_mul_mod (set : InstructionSet) (count : Word) :
    (set.width * count).toNat % set.width.toNat = 0 := by
  rw [BitVec.toNat_mul]
  rcases set.toNat_width with width | width <;> rw [width] <;> omega

/-- Aligning for an instruction set rounds down to a multiple of its width. -/
theorem toNat_align (set : InstructionSet) (address : Word) :
    (set.align address).toNat = address.toNat / set.width.toNat * set.width.toNat := by
  cases set with
  | arm => exact address.toNat_alignWord
  | thumb => exact address.toNat_alignHalf

/-- An address is aligned for an instruction set if the width divides it. -/
theorem align_eq_self_iff (set : InstructionSet) (address : Word) :
    set.align address = address ↔ address.toNat % set.width.toNat = 0 := by
  rw [← BitVec.toNat_inj, toNat_align]
  have split := Nat.div_add_mod address.toNat set.width.toNat
  rw [Nat.mul_comm] at split
  omega

@[simp] theorem align_align (set : InstructionSet) (address : Word) :
    set.align (set.align address) = set.align address := by
  rw [align_eq_self_iff, toNat_align]
  exact Nat.mul_mod_left _ _

/-- The instruction after an aligned one is aligned. -/
@[simp] theorem align_add_width (set : InstructionSet) (address : Word) :
    set.align (set.align address + set.width) = set.align address + set.width := by
  rw [align_eq_self_iff]
  refine set.toNat_add_mod ?_ (Nat.mod_self _)
  rw [toNat_align]
  exact Nat.mul_mod_left _ _

end InstructionSet

end Handheld
