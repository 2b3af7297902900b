import Handheld.Cpu.Shifter
import Handheld.Proofs.CheckedArithmetic

/-!
# Counts of shifts

The shifter in terms of shifts by less than 32 places, where a larger count is refused, and so is a
difference below zero on the way to a count. The carry is read by a mask of one bit that is shifted
into place. Whatever is shifted, and by whatever amount, no count is refused, and the result is that
of the shifter (`Shifted.checkedByImmediate_eq`, `Shifted.checkedByRegister_eq`).
-/

namespace Handheld

namespace Shifted

/-- The bit of a word at a place, by a mask that has this bit alone. -/
def checkedBit (value : Word) (place : Nat) : Option Bool := do
  let count ← shiftCount? place
  return value &&& (1#32 <<< count) != 0#32

/-- The highest bit of a word, shifted to the lowest place. -/
def checkedSign (value : Word) : Option Bool := do
  let count ← shiftCount? 31
  return value >>> count != 0#32

/-- All bits equal to the sign of a word. -/
def checkedSignFill (value : Word) : Option Word := do
  let negative ← checkedSign value
  return if negative then 0xFFFFFFFF#32 else 0#32

/-- A shift or a rotation with the last bit that leaves the word. -/
def checkedWithin (kind : ShiftKind) (value : Word) (amount : Nat) : Option Shifted := do
  let count ← shiftCount? amount
  match kind with
  | .lsl => return ⟨value <<< count, ← checkedBit value (← Nat.psub 32 amount)⟩
  | .lsr => return ⟨value >>> count, ← checkedBit value (← Nat.psub amount 1)⟩
  | .asr => return ⟨value.sshiftRight count, ← checkedBit value (← Nat.psub amount 1)⟩
  | .ror => return ⟨value.rotateRight count, ← checkedBit value (← Nat.psub amount 1)⟩

/-- A shift by the amount in an instruction, of which five bits count. -/
def checkedByImmediate (kind : ShiftKind) (value : Word) (amount : Byte) (carry : Bool) :
    Option Shifted := do
  let places := (amount &&& 0x1F#8).toNat
  if places = 0 then
    match kind with
    | .lsl => return ⟨value, carry⟩
    | .lsr => return ⟨0#32, ← checkedSign value⟩
    | .asr => return ⟨← checkedSignFill value, ← checkedSign value⟩
    | .ror =>
      let top := (BitVec.ofBool carry).setWidth 32 <<< (← shiftCount? 31)
      return ⟨top ||| value >>> (← shiftCount? 1), ← checkedBit value 0⟩
  else checkedWithin kind value places

/-- A shift by the amount in a register, of which the low byte counts. -/
def checkedByRegister (kind : ShiftKind) (value amount : Word) (carry : Bool) : Option Shifted := do
  let places := (amount &&& 0xFF#32).toNat
  if places = 0 then return ⟨value, carry⟩
  else
    match kind with
    | .lsl =>
      if places < 32 then checkedWithin .lsl value places
      else if places = 32 then return ⟨0#32, ← checkedBit value 0⟩
      else return ⟨0#32, false⟩
    | .lsr =>
      if places < 32 then checkedWithin .lsr value places
      else if places = 32 then return ⟨0#32, ← checkedSign value⟩
      else return ⟨0#32, false⟩
    | .asr =>
      if places < 32 then checkedWithin .asr value places
      else return ⟨← checkedSignFill value, ← checkedSign value⟩
    | .ror =>
      let rotation := places % 32
      if rotation = 0 then return ⟨value, ← checkedSign value⟩
      else checkedWithin .ror value rotation

/-! ## Single bits -/

/-- A bit is found wherever the word has one, by a mask that is made by a shift in range. -/
theorem checkedBit_eq (value : Word) {place : Nat} (inside : place ≤ 31) :
    checkedBit value place = some (value.getLsbD place) := by
  have mask : 1#32 <<< place = BitVec.twoPow 32 place := (BitVec.twoPow_eq 32 place).symm
  have nonzero : BitVec.twoPow 32 place ≠ 0#32 := by
    intro zero
    have bit := BitVec.getLsbD_twoPow (w := 32) place place
    rw [zero, BitVec.getLsbD_zero, decide_eq_true (by omega : place < 32),
      decide_eq_true rfl] at bit
    cases bit
  rw [checkedBit, shiftCount?_of_le inside, Option.bind_eq_bind, Option.bind_some, mask,
    BitVec.and_twoPow]
  cases value.getLsbD place with
  | false => rfl
  | true => exact congrArg some (bne_iff_ne.mpr nonzero)

/-- The sign is the highest bit, found by a shift of 31, and always there. -/
theorem checkedSign_eq (value : Word) : checkedSign value = some value.msb := by
  have top : (value >>> 31).toNat = value.toNat / 2 ^ 31 := by
    rw [BitVec.toNat_ushiftRight, Nat.shiftRight_eq_div_pow]
  have sign : (value >>> 31 != 0#32) = value.msb := by
    rw [Bool.eq_iff_iff, bne_iff_ne, BitVec.msb_eq_decide, decide_eq_true_iff, ne_eq,
      ← BitVec.toNat_inj, top, BitVec.toNat_zero]
    omega
  rw [checkedSign, shiftCount?_of_le (Nat.le_refl 31), Option.bind_eq_bind, Option.bind_some, sign]
  rfl

/-- A word of sign bits can always be made. -/
theorem checkedSignFill_eq (value : Word) : checkedSignFill value = some (signFill value) := by
  rw [checkedSignFill, checkedSign_eq, Option.bind_eq_bind, Option.bind_some]
  rfl

/-! ## Shifts -/

/-- For amounts from 1 to 31 the counts stay in range, both of the shift and of the bit that it
shifts out. -/
theorem checkedWithin_eq (kind : ShiftKind) (value : Word) {amount : Nat} (positive : 0 < amount)
    (inside : amount ≤ 31) : checkedWithin kind value amount = some (within kind value amount) := by
  have left : Nat.psub 32 amount = some (32 - amount) := Nat.psub_eq_sub (by omega)
  have right : Nat.psub amount 1 = some (amount - 1) := Nat.psub_eq_sub positive
  have lastLeft := checkedBit_eq value (by omega : 32 - amount ≤ 31)
  have lastRight := checkedBit_eq value (by omega : amount - 1 ≤ 31)
  unfold checkedWithin
  rw [shiftCount?_of_le inside, Option.bind_eq_bind, Option.bind_some]
  cases kind with
  | lsl => simp only [left, lastLeft, Option.bind_eq_bind, Option.bind_some]; rfl
  | lsr | asr | ror =>
      simp only [right, lastRight, Option.bind_eq_bind, Option.bind_some]
      rfl

/-- Rotation by one through the carry puts the carry above the upper 31 bits, which is how the model
writes it. -/
theorem byImmediate_zero_ror_eq (value : Word) (carry : Bool) :
    (BitVec.ofBool carry).setWidth 32 <<< 31 ||| value >>> 1 =
      BitVec.ofBool carry ++ value.extractLsb' 1 31 := by
  refine BitVec.eq_of_getLsbD_eq fun i bound => ?_
  simp only [BitVec.getLsbD_or, BitVec.getLsbD_shiftLeft, BitVec.getLsbD_ushiftRight,
    BitVec.getLsbD_setWidth, BitVec.getLsbD_append, BitVec.getLsbD_extractLsb']
  by_cases low : i < 31
  · simp [low]
  · obtain rfl : i = 31 := by omega
    simp

/-- No shift by the amount of an instruction is out of range. The amount is less than 32, and zero
never gets to a shift. -/
theorem checkedByImmediate_eq (kind : ShiftKind) (value : Word) (amount : Byte) (carry : Bool) :
    checkedByImmediate kind value amount carry =
      some (byImmediate kind value (amount.setWidth 5) carry) := by
  have places : (amount &&& 0x1F#8).toNat = (amount.setWidth 5).toNat := by
    rw [BitVec.toNat_and, BitVec.toNat_setWidth]
    exact Nat.and_two_pow_sub_one_eq_mod amount.toNat 5
  have zero : amount.setWidth 5 = 0 ↔ (amount.setWidth 5).toNat = 0 := BitVec.toNat_eq
  have inside : (amount.setWidth 5).toNat < 32 := (amount.setWidth 5).isLt
  unfold checkedByImmediate byImmediate
  dsimp only
  rw [places]
  by_cases none : (amount.setWidth 5).toNat = 0
  · rw [if_pos none, if_pos (zero.mpr none)]
    cases kind with
    | lsl => rfl
    | lsr => rw [checkedSign_eq]; rfl
    | asr => rw [checkedSignFill_eq, checkedSign_eq]; rfl
    | ror =>
        rw [shiftCount?_of_le (Nat.le_refl 31), shiftCount?_of_le (by decide : 1 ≤ 31),
          checkedBit_eq value (Nat.zero_le 31)]
        exact congrArg some (congrArg (Shifted.mk · _) (byImmediate_zero_ror_eq value carry))
  · rw [if_neg none, if_neg fun eq => none (zero.mp eq)]
    exact checkedWithin_eq kind value (Nat.pos_of_ne_zero none) (by omega)

/-- No shift by the amount in a register is out of range, where amounts from 32 on are treated on
their own and zero shifts nothing. -/
theorem checkedByRegister_eq (kind : ShiftKind) (value amount : Word) (carry : Bool) :
    checkedByRegister kind value amount carry =
      some (byRegister kind value amount.lowByte carry) := by
  have places : (amount &&& 0xFF#32).toNat = amount.lowByte.toNat := by
    rw [BitVec.toNat_and, Word.lowByte, BitVec.extractLsb'_toNat, Nat.shiftRight_zero]
    exact Nat.and_two_pow_sub_one_eq_mod amount.toNat 8
  have sign := checkedSign_eq value
  have bit := checkedBit_eq value (Nat.zero_le 31)
  unfold checkedByRegister byRegister
  dsimp only
  rw [places]
  by_cases none : amount.lowByte.toNat = 0
  · rw [if_pos none, if_pos none]
    rfl
  · have positive : 0 < amount.lowByte.toNat := Nat.pos_of_ne_zero none
    rw [if_neg none, if_neg none]
    cases kind with
    | lsl | lsr =>
        dsimp only
        by_cases within : amount.lowByte.toNat < 32
        · rw [if_pos within, if_pos within]
          exact checkedWithin_eq _ value positive (by omega)
        · rw [if_neg within, if_neg within]
          simp only [bit, sign]
          split <;> rfl
    | asr =>
        dsimp only
        by_cases within : amount.lowByte.toNat < 32
        · rw [if_pos within, if_pos within]
          exact checkedWithin_eq .asr value positive (by omega)
        · rw [if_neg within, if_neg within, checkedSignFill_eq, sign]
          rfl
    | ror =>
        dsimp only
        by_cases whole : amount.lowByte.toNat % 32 = 0
        · rw [if_pos whole, if_pos whole, sign]
          rfl
        · rw [if_neg whole, if_neg whole]
          exact checkedWithin_eq .ror value (Nat.pos_of_ne_zero whole) (by omega)

end Shifted

end Handheld
