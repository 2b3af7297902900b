import Handheld.Cpu.Shifter
import Mathlib.Logic.Function.Iterate

/-!
# The shifter, one place at a time

A shift by any amount is as many moves by one place, each of which leaves the bit that it takes out
of the word in the carry (`Shifted.byRegister_eq_iterate`). The amount in an instruction differs
from one in a register at zero alone, which stands for 32 places or, in a rotation, for one move
through the carry (`Shifted.byImmediate_zero_ror`). `Shifted.shifts_are_iterated_moves` puts both
together.
-/

namespace Handheld

/-- A rotation reads every bit from further up the word, around its end. -/
theorem Word.getLsbD_rotateRight (value : Word) (places : Nat) {i : Nat} (bound : i < 32) :
    (value.rotateRight places).getLsbD i = value.getLsbD ((places + i) % 32) := by
  rw [BitVec.getLsbD_rotateRight]
  by_cases inside : i < 32 - places % 32
  · have place : (places + i) % 32 = places % 32 + i := by omega
    rw [decide_eq_true inside, cond_true, place]
  · have place : (places + i) % 32 = i - (32 - places % 32) := by omega
    rw [decide_eq_false inside, cond_false, decide_eq_true bound, Bool.true_and, place]

/-- Two rotations are one by the sum. -/
theorem Word.rotateRight_add (value : Word) (first second : Nat) :
    value.rotateRight (first + second) = (value.rotateRight first).rotateRight second := by
  refine BitVec.eq_of_getLsbD_eq fun i bound => ?_
  have inside : (second + i) % 32 < 32 := Nat.mod_lt _ (by decide)
  have place : (first + second + i) % 32 = (first + (second + i) % 32) % 32 := by omega
  rw [getLsbD_rotateRight _ _ bound, getLsbD_rotateRight _ _ bound, getLsbD_rotateRight _ _ inside,
    place]

namespace ShiftKind

/-- A word moved by any number of places. -/
def move (kind : ShiftKind) (value : Word) (places : Nat) : Word :=
  match kind with
  | lsl => value <<< places
  | lsr => value >>> places
  | asr => value.sshiftRight places
  | ror => value.rotateRight places

/-- The bit that the next move by one place takes out of the word. -/
def outgoing (kind : ShiftKind) (value : Word) : Bool :=
  match kind with
  | lsl => value.getLsbD 31
  | lsr | asr | ror => value.getLsbD 0

variable (kind : ShiftKind) (value : Word)

/-- No move, no change. -/
@[simp] theorem move_zero : kind.move value 0 = value := by
  cases kind with
  | lsl => exact BitVec.shiftLeft_zero value
  | lsr => exact BitVec.ushiftRight_zero value
  | asr => exact BitVec.sshiftRight_zero
  | ror =>
      refine BitVec.eq_of_getLsbD_eq fun i bound => ?_
      have place : (0 + i) % 32 = i := by omega
      exact (Word.getLsbD_rotateRight value 0 bound).trans (congrArg value.getLsbD place)

/-- Moves add up. -/
theorem move_add (first second : Nat) :
    kind.move value (first + second) = kind.move (kind.move value first) second := by
  cases kind with
  | lsl => exact BitVec.shiftLeft_add value first second
  | lsr => exact BitVec.shiftRight_add value first second
  | asr => exact BitVec.sshiftRight_add
  | ror => exact Word.rotateRight_add value first second

/-- The last bit that leaves the word, as a bit of the word before it was moved: counted from the
top to the left, and from the bottom to the right. -/
theorem outgoing_move {places : Nat} (inside : places < 32) :
    kind.outgoing (kind.move value places) =
      value.getLsbD (if kind = lsl then 31 - places else places) := by
  cases kind with
  | lsl =>
      have above : ¬ 31 < places := by omega
      show (value <<< places).getLsbD 31 = value.getLsbD (31 - places)
      rw [BitVec.getLsbD_shiftLeft, decide_eq_false above]
      rfl
  | lsr => exact BitVec.getLsbD_ushiftRight value places 0
  | asr =>
      show (value.sshiftRight places).getLsbD 0 = value.getLsbD places
      rw [BitVec.getLsbD_sshiftRight, Nat.add_zero, if_pos inside]
      rfl
  | ror =>
      have place : (places + 0) % 32 = places := Nat.mod_eq_of_lt inside
      exact (Word.getLsbD_rotateRight value places (by decide)).trans
        (congrArg value.getLsbD place)

end ShiftKind

namespace Shifted

variable (kind : ShiftKind) (value : Word) (carry : Bool)

/-- A move by one place. -/
def oneMove (shifted : Shifted) : Shifted where
  value := kind.move shifted.value 1
  carry := kind.outgoing shifted.value

/-- What moves by one place add up to: the value is moved by all places, and the carry is the bit
that the last one moved out. -/
theorem iterate_oneMove (places : Nat) :
    (oneMove kind)^[places + 1] ⟨value, carry⟩ =
      ⟨kind.move value (places + 1), kind.outgoing (kind.move value places)⟩ := by
  induction places with
  | zero => rw [kind.move_zero]; rfl
  | succ places ih =>
      rw [Function.iterate_succ_apply', ih, kind.move_add value (places + 1) 1]
      rfl

/-- Inside of the word a shift by some places is as many moves by one, and its carry is the bit that
the last of them moves out. -/
theorem within_eq {places : Nat} (inside : places + 1 < 32) :
    within kind value (places + 1) =
      ⟨kind.move value (places + 1), kind.outgoing (kind.move value places)⟩ := by
  rw [kind.outgoing_move value (by omega)]
  cases kind with
  | lsl =>
      have place : 32 - (places + 1) = 31 - places := by omega
      exact congrArg (fun i => Shifted.mk _ (value.getLsbD i)) place
  | lsr | asr | ror => rfl

/-! ## Amounts in a register -/

/-- Past the width a logical shift to the left leaves nothing, however far it goes. -/
theorem move_lsl_of_le {places : Nat} (past : 32 ≤ places) : ShiftKind.lsl.move value places = 0 :=
  BitVec.shiftLeft_eq_zero past

/-- Past the width a logical shift to the right leaves nothing either. -/
theorem move_lsr_of_le {places : Nat} (past : 32 ≤ places) : ShiftKind.lsr.move value places = 0 :=
  BitVec.ushiftRight_eq_zero past

/-- Past the width an arithmetic shift to the right leaves nothing but the sign, however far it
goes. -/
theorem move_asr_of_le {places : Nat} (past : 32 ≤ places) :
    ShiftKind.asr.move value places = signFill value := by
  refine BitVec.eq_of_getLsbD_eq fun i bound => ?_
  have outside : ¬ places + i < 32 := by omega
  show (value.sshiftRight places).getLsbD i = _
  rw [BitVec.getLsbD_sshiftRight, if_neg outside, decide_eq_false (Nat.not_le.mpr bound),
    Bool.not_false, Bool.true_and, signFill]
  cases value.msb with
  | false => exact BitVec.getLsbD_zero.symm
  | true => exact (BitVec.getLsbD_allOnes.trans (decide_eq_true bound)).symm

/-- The last bit to leave the word, from the thirty-second place on. -/
theorem outgoing_asr_of_le {places : Nat} (last : 31 ≤ places) :
    ShiftKind.asr.outgoing (ShiftKind.asr.move value places) = value.msb := by
  rcases Nat.lt_or_eq_of_le last with past | rfl
  · rw [move_asr_of_le value past, signFill]
    cases value.msb <;> rfl
  · rw [ShiftKind.outgoing_move _ value (by decide), BitVec.msb_eq_getLsbD_last]
    rfl

/-- For a positive amount the result is that of the moves, and the carry that of the last one,
whether the amount fits the word or not. -/
theorem byRegister_succ {amount : Byte} {places : Nat} (counts : amount.toNat = places + 1) :
    byRegister kind value amount carry =
      ⟨kind.move value (places + 1), kind.outgoing (kind.move value places)⟩ := by
  have nonzero : ¬ places + 1 = 0 := Nat.succ_ne_zero places
  unfold byRegister
  dsimp only
  rw [counts, if_neg nonzero]
  cases kind with
  | lsl =>
      dsimp only
      split
      · exact within_eq .lsl value ‹_›
      · rw [move_lsl_of_le value (Nat.not_lt.mp ‹_›)]
        split
        -- A shift by the whole word: the carry is the last bit to leave it.
        · obtain rfl : places = 31 := by omega
          rw [ShiftKind.outgoing_move _ value (by decide)]
          rfl
        · rw [move_lsl_of_le value (by omega)]
          rfl
  | lsr =>
      dsimp only
      split
      · exact within_eq .lsr value ‹_›
      · rw [move_lsr_of_le value (Nat.not_lt.mp ‹_›)]
        split
        · obtain rfl : places = 31 := by omega
          rw [ShiftKind.outgoing_move _ value (by decide), BitVec.msb_eq_getLsbD_last]
          rfl
        · rw [move_lsr_of_le value (by omega)]
          rfl
  | asr =>
      dsimp only
      split
      · exact within_eq .asr value ‹_›
      · rw [move_asr_of_le value (Nat.not_lt.mp ‹_›), outgoing_asr_of_le value (by omega)]
  | ror =>
      have turned : ShiftKind.ror.move value (places + 1) =
          value.rotateRight ((places + 1) % 32) := BitVec.rotateRight_mod_eq_rotateRight.symm
      have outgoing : ShiftKind.ror.outgoing (ShiftKind.ror.move value places) =
          value.getLsbD (places % 32) := Word.getLsbD_rotateRight value places (by decide)
      dsimp only
      rw [turned, outgoing]
      split
      · rename_i whole
        have last : places % 32 = 31 := by omega
        rw [whole, last, ← BitVec.msb_eq_getLsbD_last]
        exact congrArg (Shifted.mk · value.msb) (ShiftKind.move_zero .ror value).symm
      · have place : (places + 1) % 32 - 1 = places % 32 := by omega
        exact congrArg (fun i => Shifted.mk _ (value.getLsbD i)) place

/-- A shift by a register moves by one place as often as the amount says. -/
theorem byRegister_eq_iterate (amount : Byte) :
    byRegister kind value amount carry = (oneMove kind)^[amount.toNat] ⟨value, carry⟩ := by
  cases counts : amount.toNat with
  | zero => exact if_pos counts
  | succ places => rw [byRegister_succ kind value carry counts, iterate_oneMove]

/-! ## Amounts in an instruction -/

/-- Apart from zero, an amount in the instruction means the same as one in a register, which then
lies between 1 and 31. -/
theorem byImmediate_eq_byRegister {amount : BitVec 5} (nonzero : amount ≠ 0) :
    byImmediate kind value amount carry =
      byRegister kind value (amount.setWidth 8) carry := by
  have positive : amount.toNat ≠ 0 := fun zero => nonzero (BitVec.eq_of_toNat_eq zero)
  have inside : amount.toNat < 32 := amount.isLt
  have counts : (amount.setWidth 8).toNat = amount.toNat - 1 + 1 := by
    rw [BitVec.toNat_setWidth_of_le (by decide)]
    omega
  rw [byRegister_succ kind value carry counts, ← within_eq kind value (by omega),
    Nat.sub_add_cancel (Nat.pos_of_ne_zero positive)]
  exact if_neg nonzero

/-- The rotation of an instruction by zero turns the word and the carry above it by one place, as if
they were 33 bits. -/
theorem byImmediate_zero_ror :
    let turned := byImmediate .ror value 0 carry
    BitVec.ofBool turned.carry ++ turned.value = (BitVec.ofBool carry ++ value).rotateRight 1 := by
  intro turned
  refine BitVec.eq_of_getLsbD_eq fun i bound => ?_
  show (BitVec.ofBool (value.getLsbD 0) ++
    (BitVec.ofBool carry ++ value.extractLsb' 1 31)).getLsbD i = _
  simp only [BitVec.getLsbD_rotateRight, BitVec.getLsbD_append]
  rcases Nat.lt_trichotomy i 31 with low | rfl | high
  · have below : i < 32 := by omega
    have next : 1 + i < 32 := by omega
    simp [low, below, next]
  · rfl
  · obtain rfl : i = 32 := by omega
    simp

/-- A shift is one move by one place, done as often as its amount says. Of the amount in a register
the low byte counts. The amount in an instruction means the same, but for zero: a shift to the left
by zero does nothing, a shift to the right by zero is one by 32 places, and a rotation by zero turns
the word together with the carry. -/
theorem shifts_are_iterated_moves :
    (∀ amount : Word, byRegister kind value amount.lowByte carry =
        (oneMove kind)^[amount.toNat % 256] ⟨value, carry⟩) ∧
      (∀ amount : BitVec 5, amount ≠ 0 → byImmediate kind value amount carry =
        byRegister kind value (amount.setWidth 8) carry) ∧
      byImmediate .lsl value 0 carry = ⟨value, carry⟩ ∧
      byImmediate .lsr value 0 carry = byRegister .lsr value 32 carry ∧
      byImmediate .asr value 0 carry = byRegister .asr value 32 carry ∧
      let turned := byImmediate .ror value 0 carry
      BitVec.ofBool turned.carry ++ turned.value =
        (BitVec.ofBool carry ++ value).rotateRight 1 := by
  refine ⟨fun amount => ?_, fun _ nonzero => byImmediate_eq_byRegister kind value carry nonzero,
    rfl, rfl, rfl, byImmediate_zero_ror value carry⟩
  have low : amount.lowByte.toNat = amount.toNat % 256 := by
    rw [Word.lowByte, BitVec.extractLsb'_toNat, Nat.shiftRight_zero]
  rw [byRegister_eq_iterate, low]

/-- `LSR #7`, and a rotation by a register that holds 0x127, of which the low byte counts and turns
the word by 0x27 places. -/
theorem shift_by_seven_and_rotation_by_thirty_nine :
    (7 : BitVec 5) ≠ 0 ∧
      byImmediate .lsr 0x80000040 7 false = (oneMove .lsr)^[7] ⟨0x80000040, false⟩ ∧
      byRegister .ror 0x80000040 (Word.lowByte 0x127) false =
        (oneMove .ror)^[39] ⟨0x80000040, false⟩ := by
  have nonzero : (7 : BitVec 5) ≠ 0 := by decide
  obtain ⟨moves, immediate, -⟩ := shifts_are_iterated_moves .lsr 0x80000040 false
  exact ⟨nonzero, (immediate 7 nonzero).trans (moves 7),
    (shifts_are_iterated_moves .ror 0x80000040 false).1 0x127⟩

end Shifted

end Handheld
