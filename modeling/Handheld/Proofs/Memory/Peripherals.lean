import Handheld.Proofs.Memory.WorkRam
import Handheld.Proofs.Memory.Writes

/-!
# What a program can do to the peripheral registers

A register byte is read back as it was stored, and a register halfword as its two bytes
(`IoRegisters.readHalf_storeHalf`). A write of the program follows the rule of its byte
(`IoRegisters.readByte_writeByte`), and none of the rules lets it touch the line counter, the keys
or the lower status bits, or raise a request for an interrupt
(`IoRegisters.sameHardwareState_writeByte`).
-/

namespace Handheld

/-- A halfword is put together again from its two bytes. -/
theorem Half.ofBytes_low_high (half : Half) : ofBytes half.low half.high = half :=
  (BitVec.extractLsb'_append_extractLsb'_eq_extractLsb' rfl).trans BitVec.extractLsb'_eq_self

/-- The bits of a halfword are those of its bytes, eight by eight. -/
theorem Half.getLsbD_ofBytes (low high : Byte) (i : Nat) :
    (ofBytes low high).getLsbD i = if i < 8 then low.getLsbD i else high.getLsbD (i - 8) := by
  rw [ofBytes, BitVec.getLsbD_append]

/-! ## Bits of keys and of sources -/

/-- A mask of one bit has that bit and no other. -/
theorem Half.getLsbD_twoPow {index : Nat} (inHalf : index < 16) (i : Nat) :
    (BitVec.twoPow 16 index).getLsbD i = decide (i = index) := by
  rw [BitVec.getLsbD_twoPow, decide_eq_true inHalf, Bool.true_and]
  exact decide_eq_decide.mpr eq_comm

/-- The keys have the ten lowest bits of the key register. -/
theorem Key.index_lt (key : Key) : key.index < 10 := by
  cases key <;> decide

/-- No two keys have the same bit. -/
theorem Key.index_inj {key other : Key} : key.index = other.index ↔ key = other := by
  cases key <;> cases other <;> decide

theorem Key.getLsbD_mask (key : Key) (i : Nat) :
    key.mask.getLsbD i = decide (i = key.index) :=
  Half.getLsbD_twoPow (Nat.lt_trans key.index_lt (by decide)) i

/-- Each of the ten lowest bits is that of a key. -/
theorem Key.exists_index {i : Nat} (inKeys : i < 10) : ∃ key : Key, key.index = i := by
  have keys : ∀ bit : Fin 10, ∃ key : Key, key.index = bit.val := by
    intro bit
    refine ⟨all.get bit, ?_⟩
    revert bit
    decide
  exact keys ⟨i, inKeys⟩

/-- With no key held, the bits of all keys are set and the others are clear. -/
theorem Key.getLsbD_idle (i : Nat) : idle.getLsbD i = decide (i < 10) := by
  have ones : idle = (BitVec.allOnes 10).setWidth 16 := by decide
  rw [ones, BitVec.getLsbD_setWidth, BitVec.getLsbD_allOnes]
  by_cases inKeys : i < 10
  · simp only [inKeys, Nat.lt_trans inKeys, decide_true, Bool.and_self, Nat.reduceLT]
  · simp only [inKeys, decide_false, Bool.and_false]

/-- The sources have the fourteen lowest bits of the interrupt registers. -/
theorem Interrupt.index_lt (source : Interrupt) : source.index < 14 := by
  cases source <;> decide

theorem Interrupt.getLsbD_mask (source : Interrupt) (i : Nat) :
    source.mask.getLsbD i = decide (i = source.index) :=
  Half.getLsbD_twoPow (Nat.lt_trans source.index_lt (by decide)) i

/-! ## Halfwords as pairs of bytes -/

namespace IoOffset

theorem even_eq (offset : IoOffset) : offset.even = offset &&& ~~~1#10 := rfl

/-- The lower byte of a halfword is never the upper byte of another. -/
theorem even_ne_odd (a b : IoOffset) : a.even ≠ b.odd := by
  intro same
  have bit := congrArg (·.getLsbD 0) same
  simp [even_eq, odd] at bit

/-- The upper byte comes right after the lower one. -/
theorem odd_eq_even_or (offset : IoOffset) : offset.odd = offset.even ||| 1 := by
  ext i bound
  rw [even_eq, odd]
  simp only [BitVec.getElem_or, BitVec.getElem_and, BitVec.getElem_not]
  cases (1#10)[i] <;> simp

theorem even_eq_odd_and (offset : IoOffset) : offset.even = offset.odd &&& ~~~1#10 := by
  ext i bound
  rw [even_eq, odd]
  simp only [BitVec.getElem_or, BitVec.getElem_and, BitVec.getElem_not]
  cases (1#10)[i] <;> simp

/-- Halfwords with the same upper byte have the same lower byte, so either of the two names the
halfword. -/
theorem odd_inj {a b : IoOffset} : a.odd = b.odd ↔ a.even = b.even := by
  constructor
  · intro same
    rw [even_eq_odd_and a, even_eq_odd_and b, same]
  · intro same
    rw [odd_eq_even_or a, odd_eq_even_or b, same]

/-- Every byte is one of the two of its halfword, which are at an even offset and the odd one after
it. -/
theorem eq_even_or_odd (offset : IoOffset) : offset = offset.even ∨ offset = offset.odd := by
  cases first : offset.getLsbD 0 with
  | false =>
      refine .inl (BitVec.eq_of_getLsbD_eq fun i bound => ?_)
      rw [even_eq, BitVec.getLsbD_and, BitVec.getLsbD_not, BitVec.getLsbD_one]
      by_cases lowest : i = 0
      · rw [lowest, first, Bool.false_and]
      · simp [lowest, bound]
  | true =>
      refine .inr (BitVec.eq_of_getLsbD_eq fun i bound => ?_)
      rw [odd, BitVec.getLsbD_or, BitVec.ofNat_eq_ofNat, BitVec.getLsbD_one]
      by_cases lowest : i = 0
      · rw [lowest, first, Bool.true_or]
      · simp [lowest]

end IoOffset

namespace IoRegisters

/-- A byte is kept if its halfword is. Registers are compared as halfwords, and this carries the
result over to bytes. -/
theorem readByte_of_readHalf {before after : IoRegisters} {offset : IoOffset}
    (same : after.readHalf offset = before.readHalf offset) :
    after.readByte offset = before.readByte offset := by
  rcases offset.eq_even_or_odd with even | odd
  · have low := congrArg Half.low same
    rwa [readHalf, readHalf, Half.low_ofBytes, Half.low_ofBytes, ← even] at low
  · have high := congrArg Half.high same
    rwa [readHalf, readHalf, Half.high_ofBytes, Half.high_ofBytes, ← odd] at high

variable (io : IoRegisters)

/-- A stored byte is read back, and storing it changes no other byte. The file has a byte for every
offset, so no store is lost. -/
theorem readByte_storeByte (offset other : IoOffset) (value : Byte) :
    (io.storeByte offset value).readByte other =
      if other = offset then value else io.readByte other := by
  simp only [readByte, storeByte, Vector.getElem_set, BitVec.toNat_inj, eq_comm]

/-- A halfword stored by the hardware is read back from both of its offsets, and no other one
changes. -/
theorem readHalf_storeHalf (offset other : IoOffset) (value : Half) :
    (io.storeHalf offset value).readHalf other =
      if other.even = offset.even then value else io.readHalf other := by
  simp only [readHalf, storeHalf, readByte_storeByte, IoOffset.odd_inj, IoOffset.even_ne_odd,
    (IoOffset.even_ne_odd _ _).symm, ↓reduceIte]
  split
  · exact value.ofBytes_low_high
  · rfl

/-- A stored halfword is read back, at whichever of its two offsets it is stored and read. -/
@[simp] theorem readHalf_storeHalf_self (offset : IoOffset) (value : Half) :
    (io.storeHalf offset value).readHalf offset = value := by
  rw [readHalf_storeHalf, if_pos rfl]

/-- Storing a halfword changes no other halfword. -/
theorem readHalf_storeHalf_of_ne {offset other : IoOffset} (apart : other.even ≠ offset.even)
    (value : Half) : (io.storeHalf offset value).readHalf other = io.readHalf other := by
  rw [readHalf_storeHalf, if_neg apart]

/-- The bits of a stored halfword are those of its bytes, the lower eight at the even offset and the
upper eight at the odd one. -/
theorem getLsbD_readHalf (offset : IoOffset) (i : Nat) :
    (io.readHalf offset).getLsbD i =
      if i < 8 then (io.readByte offset.even).getLsbD i
      else (io.readByte offset.odd).getLsbD (i - 8) :=
  Half.getLsbD_ofBytes _ _ i

end IoRegisters

/-! ## Writes of the program -/

/-- The byte that a write of the program leaves. -/
def IoWriteRule.stored (rule : IoWriteRule) (old value : Byte) : Byte :=
  match rule with
  | .replace | .halt => value
  | .keep mask => (old &&& mask) ||| (value &&& ~~~mask)
  | .clearOnes => old &&& ~~~value

namespace IoWriteRule

/-- A masked bit keeps its value whatever is written. -/
theorem getLsbD_stored_keep {mask : Byte} {i : Nat} (kept : mask.getLsbD i = true)
    (old value : Byte) : ((keep mask).stored old value).getLsbD i = old.getLsbD i := by
  simp only [stored, BitVec.getLsbD_or, BitVec.getLsbD_and, BitVec.getLsbD_not, kept,
    Bool.and_true, Bool.not_true, Bool.and_false, Bool.or_false]

/-- A byte whose bits are all masked cannot be written. -/
theorem stored_keep_all (old value : Byte) : (keep 0xFF).stored old value = old := by
  have all : (0xFF : Byte) = BitVec.allOnes 8 := rfl
  rw [stored, all, BitVec.and_allOnes, BitVec.not_allOnes]
  exact (congrArg (old ||| ·) BitVec.and_zero).trans BitVec.or_zero

/-- Writing a byte that is acknowledged bit by bit never sets a bit. -/
theorem getLsbD_of_stored_clearOnes {old value : Byte} {i : Nat}
    (raised : (clearOnes.stored old value).getLsbD i = true) : old.getLsbD i = true := by
  rw [stored, BitVec.getLsbD_and, Bool.and_eq_true] at raised
  exact raised.1

end IoWriteRule

namespace IoRegisters

/-- What a program cannot do to the registers: it keeps the line counter, the keys and the status
of the picture, and it makes no request. -/
structure SameHardwareState (before after : IoRegisters) : Prop where
  line : after.readHalf .vcount = before.readHalf .vcount
  keys : after.keyInput = before.keyInput
  status : ∀ i < 3, (after.readHalf .dispstat).getLsbD i = (before.readHalf .dispstat).getLsbD i
  requests : ∀ i, after.interruptFlags.getLsbD i = true → before.interruptFlags.getLsbD i = true

namespace SameHardwareState

variable {a b c : IoRegisters}

/-- The hardware's part of the registers is stored in their bytes. -/
theorem of_bytes (same : b.bytes = a.bytes) : SameHardwareState a b := by
  have halves (offset : IoOffset) : b.readHalf offset = a.readHalf offset := by
    rw [readHalf, readHalf, readByte, readByte, readByte, readByte, same]
  refine ⟨halves _, halves _, fun _ _ => by rw [halves], fun i raised => ?_⟩
  rw [interruptFlags, ← halves]
  exact raised

theorem refl (io : IoRegisters) : SameHardwareState io io := of_bytes rfl

/-- What is kept by one write after the other is kept by both together. -/
theorem trans (first : SameHardwareState a b) (second : SameHardwareState b c) :
    SameHardwareState a c where
  line := second.line.trans first.line
  keys := second.keys.trans first.keys
  status i bound := (second.status i bound).trans (first.status i bound)
  requests i raised := first.requests i (second.requests i raised)

end SameHardwareState

variable (io : IoRegisters) (offset : IoOffset) (value : Byte)

/-- A write of the program changes the byte at its offset only, and that byte by its rule: replaced,
kept in part, or cleared by ones. -/
theorem readByte_writeByte (other : IoOffset) :
    (io.writeByte offset value).readByte other =
      if other = offset then offset.writeRule.stored (io.readByte offset) value
      else io.readByte other := by
  unfold writeByte
  split <;> rename_i rule <;> rw [rule] <;> exact readByte_storeByte io offset other _

/-- A byte that belongs to the hardware is kept by every write of the program, wherever it goes. -/
theorem readByte_writeByte_of_kept {other : IoOffset} (kept : other.writeRule = .keep 0xFF) :
    (io.writeByte offset value).readByte other = io.readByte other := by
  rw [readByte_writeByte]
  split
  · rename_i same
    rw [← same, kept, IoWriteRule.stored_keep_all]
  · rfl

/-- A halfword of which both bytes belong to the hardware is kept by every write of the program,
wherever this goes. -/
theorem readHalf_writeByte_of_kept {other : IoOffset} (low : other.even.writeRule = .keep 0xFF)
    (high : other.odd.writeRule = .keep 0xFF) :
    (io.writeByte offset value).readHalf other = io.readHalf other := by
  rw [readHalf, readHalf, readByte_writeByte_of_kept io offset value low,
    readByte_writeByte_of_kept io offset value high]

/-- Ones in a byte that writes can only clear were there before the write. A program cannot raise a
request in this way. -/
theorem getLsbD_of_writeByte {other : IoOffset} (clears : other.writeRule = .clearOnes) {i : Nat}
    (raised : ((io.writeByte offset value).readByte other).getLsbD i = true) :
    (io.readByte other).getLsbD i = true := by
  rw [readByte_writeByte] at raised
  split at raised
  · rename_i same
    rw [← same, clears] at raised
    exact IoWriteRule.getLsbD_of_stored_clearOnes raised
  · exact raised

/-- No byte written by the program reaches what belongs to the hardware: the key register, the line
counter and three bits of the display status. -/
theorem sameHardwareState_writeByte : SameHardwareState io (io.writeByte offset value) where
  line := readHalf_writeByte_of_kept io offset value (by decide) (by decide)
  keys := readHalf_writeByte_of_kept io offset value (by decide) (by decide)
  status i bound := by
    have inLow : i < 8 := by omega
    have kept : (0b111 : Byte).getLsbD i = true := by
      have bits : ∀ j : Fin 3, (0b111 : Byte).getLsbD j.val = true := by decide
      exact bits ⟨i, bound⟩
    have rule : IoOffset.dispstat.even.writeRule = .keep 0b111 := by decide
    rw [getLsbD_readHalf, getLsbD_readHalf, if_pos inLow, if_pos inLow, readByte_writeByte]
    split
    · rename_i same
      rw [← same, rule, IoWriteRule.getLsbD_stored_keep kept]
    · rfl
  requests i raised := by
    rw [interruptFlags, getLsbD_readHalf] at raised ⊢
    split
    · rename_i low
      rw [if_pos low] at raised
      exact getLsbD_of_writeByte io offset value (by decide) raised
    · rename_i high
      rw [if_neg high] at raised
      exact getLsbD_of_writeByte io offset value (by decide) raised

/-! ## Requests -/

variable (condition : Bool) (source : Interrupt)

/-- Requesting an interrupt sets its bit and keeps the other requests. -/
theorem interruptFlags_requestInterrupt :
    (io.requestInterrupt source).interruptFlags = io.interruptFlags ||| source.mask :=
  readHalf_storeHalf_self io _ _

/-- A request is noted in the request register and nowhere else, whether it is made or not. -/
theorem readHalf_requestIf_of_ne {other : IoOffset}
    (apart : other.even ≠ IoOffset.interruptFlags.even) :
    (io.requestIf condition source).readHalf other = io.readHalf other := by
  unfold requestIf
  split
  · exact readHalf_storeHalf_of_ne io apart _
  · rfl

/-- A request raises the bit of its source only, and only if its condition holds. The bits of other
sources stay. -/
theorem getLsbD_interruptFlags_requestIf (i : Nat) :
    (io.requestIf condition source).interruptFlags.getLsbD i =
      (io.interruptFlags.getLsbD i || (condition && decide (i = source.index))) := by
  cases condition with
  | false => rw [Bool.false_and, Bool.or_false, requestIf, if_neg Bool.false_ne_true]
  | true =>
      rw [Bool.true_and, requestIf, if_pos rfl, interruptFlags_requestInterrupt,
        BitVec.getLsbD_or, source.getLsbD_mask]

/-- No request is made for a source that does not exist. -/
def KnownRequests : Prop := ∀ i, 14 ≤ i → io.interruptFlags.getLsbD i = false

namespace KnownRequests

variable {io : IoRegisters}

/-- Writes of the program raise no requests, so none of a source that does not exist. -/
theorem of_same {after : IoRegisters} (known : io.KnownRequests)
    (same : io.SameHardwareState after) : after.KnownRequests := by
  intro i unknown
  cases raised : after.interruptFlags.getLsbD i with
  | false => rfl
  | true => rw [← known i unknown, same.requests i raised]

/-- What the hardware stores in another register requests nothing, so the requests are still among
those that the machine has. -/
theorem storeHalf_of_ne (known : io.KnownRequests) {offset : IoOffset}
    (apart : IoOffset.interruptFlags.even ≠ offset.even) (value : Half) :
    (io.storeHalf offset value).KnownRequests := by
  intro i unknown
  rw [interruptFlags, readHalf_storeHalf_of_ne io apart]
  exact known i unknown

/-- Interrupts are only requested for sources that exist. -/
theorem requestIf (known : io.KnownRequests) (condition : Bool) (source : Interrupt) :
    (io.requestIf condition source).KnownRequests := by
  intro i unknown
  have other : i ≠ source.index := Nat.ne_of_gt (Nat.lt_of_lt_of_le source.index_lt unknown)
  rw [getLsbD_interruptFlags_requestIf, known i unknown, decide_eq_false other, Bool.and_false]
  rfl

/-- A key event requests the keypad interrupt or nothing. -/
theorem setKey (known : io.KnownRequests) (key : Key) (pressed : Bool) :
    (io.setKey key pressed).KnownRequests :=
  (known.storeHalf_of_ne (by decide) _).requestIf _ _

end KnownRequests

/-! ## Keys -/

variable (key : Key) (pressed : Bool)

/-- A key event clears the bit of its key if the key goes down, and sets it if the key comes up. A
held key reads as zero. -/
theorem keyInput_setKey :
    (io.setKey key pressed).keyInput =
      if pressed then io.keyInput &&& ~~~key.mask else io.keyInput ||| key.mask := by
  rw [setKey, keyInput, readHalf_requestIf_of_ne _ _ _ (by decide), readHalf_storeHalf_self]

/-- An event of a key changes the bit of that key only, and sets it by the event alone, whatever it
was before. -/
theorem getLsbD_keyInput_setKey (i : Nat) :
    (io.setKey key pressed).keyInput.getLsbD i =
      if i = key.index then !pressed else io.keyInput.getLsbD i := by
  have inHalf : key.index < 16 := Nat.lt_trans key.index_lt (by decide)
  rw [keyInput_setKey]
  cases pressed with
  | false =>
      rw [if_neg Bool.false_ne_true, BitVec.getLsbD_or, key.getLsbD_mask]
      split <;> rename_i same <;> simp [same]
  | true =>
      rw [if_pos rfl, BitVec.getLsbD_and, BitVec.getLsbD_not, key.getLsbD_mask]
      split <;> rename_i same
      · simp [same]
      · simp only [same, decide_false, Bool.not_false, Bool.and_true]
        by_cases inside : i < 16
        · simp [inside]
        · simp [inside, BitVec.getLsbD_of_ge _ _ (Nat.le_of_not_lt inside)]

/-- A key event touches the key register and the requests only. In particular the key control, which
decides on the request, is left as the program wrote it. -/
theorem readHalf_setKey_of_ne {other : IoOffset} (notKeys : other.even ≠ IoOffset.keyinput.even)
    (notRequests : other.even ≠ IoOffset.interruptFlags.even) :
    (io.setKey key pressed).readHalf other = io.readHalf other := by
  rw [setKey, readHalf_requestIf_of_ne _ _ _ notRequests, readHalf_storeHalf_of_ne _ notKeys]

end IoRegisters

/-- Whatever a program stores wherever, it does not reach what belongs to the hardware. By induction
on its stores. -/
theorem Bus.Written.sameHardwareState {start bus : Bus} (written : Written start bus) :
    start.io.SameHardwareState bus.io := by
  induction written with
  | unchanged => exact .refl _
  | memory written address value ih =>
      rw [io_store8]
      exact ih
  | peripheral written offset value ih =>
      exact ih.trans (IoRegisters.sameHardwareState_writeByte _ offset value)

end Handheld
