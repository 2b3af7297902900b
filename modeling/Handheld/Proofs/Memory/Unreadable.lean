import Handheld.Proofs.Memory.Acknowledge
import Handheld.Proofs.Video.Clock

/-!
# Registers that cannot be read back

Programs read zero from the scroll, affine, mosaic and low-power registers, whatever is stored
there (`IoOffset.writeOnly_iff`). Two buses that differ in these bytes only are read alike
(`Bus.SameReadable.read8`). What a program writes to both, and what the keys and the clock do to
both, depends on no such byte either, so it lets them differ in these bytes only
(`Bus.SameReadable.perform`, `IoRegisters.SameReadable.setKey`,
`IoRegisters.SameReadable.advance`).
-/

namespace Handheld

/-- The offsets of the register bytes that a program cannot read back. -/
def IoOffset.Unreadable (n : Nat) : Prop :=
  0x010 ≤ n ∧ n ≤ 0x03F ∨ n = 0x04C ∨ n = 0x04D ∨ n = 0x301

instance : DecidablePred IoOffset.Unreadable :=
  fun n => inferInstanceAs (Decidable (0x010 ≤ n ∧ n ≤ 0x03F ∨ _))

/-- The bytes that programs read as zero are those listed as unreadable. -/
theorem IoOffset.writeOnly_iff (offset : IoOffset) :
    offset.writeOnly = true ↔ Unreadable offset.toNat := by
  revert offset
  decide +kernel

namespace IoRegisters

open IoOffset (Unreadable)

/-- Registers that differ at most in bytes that a program cannot read back. -/
structure SameReadable (a b : IoRegisters) : Prop where
  readByte : ∀ offset : IoOffset, ¬ Unreadable offset.toNat → a.readByte offset = b.readByte offset
  haltRequested : a.haltRequested = b.haltRequested

namespace SameReadable

variable {a b : IoRegisters}

theorem refl (io : IoRegisters) : SameReadable io io := ⟨fun _ _ => rfl, rfl⟩

/-- What looks the same to programs in two steps looks the same to them at once. -/
theorem trans {c : IoRegisters} (first : SameReadable a b) (second : SameReadable b c) :
    SameReadable a c :=
  ⟨fun offset readable => (first.readByte offset readable).trans (second.readByte offset readable),
    first.haltRequested.trans second.haltRequested⟩

/-- A program reads the same byte: either it is readable and stored alike, or it reads as zero from
both. -/
theorem cpuReadByte (same : SameReadable a b) (offset : IoOffset) :
    a.cpuReadByte offset = b.cpuReadByte offset := by
  unfold IoRegisters.cpuReadByte
  split
  · rfl
  · rename_i readable
    exact same.readByte offset (mt offset.writeOnly_iff.mpr readable)

/-- A stored halfword of which both bytes are readable is the same in both. The hardware itself
works with such halfwords only. -/
theorem readHalf (same : SameReadable a b) {offset : IoOffset}
    (even : ¬ Unreadable offset.even.toNat) (odd : ¬ Unreadable offset.odd.toNat) :
    a.readHalf offset = b.readHalf offset := by
  rw [IoRegisters.readHalf, IoRegisters.readHalf, same.readByte _ even, same.readByte _ odd]

/-! ### Writes -/

/-- Storing one byte in both leaves them alike, also where it was different before. -/
theorem storeByte (same : SameReadable a b) (offset : IoOffset) (value : Byte) :
    SameReadable (a.storeByte offset value) (b.storeByte offset value) := by
  refine ⟨fun other readable => ?_, same.haltRequested⟩
  rw [readByte_storeByte, readByte_storeByte, same.readByte other readable]

/-- Storing one halfword in both leaves them alike. -/
theorem storeHalf (same : SameReadable a b) (offset : IoOffset) (value : Half) :
    SameReadable (a.storeHalf offset value) (b.storeHalf offset value) :=
  (same.storeByte _ _).storeByte _ _

/-- A byte written by a program depends on what was stored in its own place only, so that a write to
a readable byte has the same result in both. -/
theorem writeByte (same : SameReadable a b) (offset : IoOffset) (value : Byte) :
    SameReadable (a.writeByte offset value) (b.writeByte offset value) := by
  refine ⟨fun other readable => ?_, ?_⟩
  · rw [readByte_writeByte, readByte_writeByte]
    split
    · rename_i here
      rw [← here, same.readByte other readable]
    · exact same.readByte other readable
  · unfold IoRegisters.writeByte
    split
    · exact same.haltRequested
    · exact same.haltRequested
    · exact same.haltRequested
    · rfl

/-- Writes of the program leave both alike, since what they keep of the old byte is readable. -/
theorem writeAll (same : SameReadable a b) (cells : List (Word × Byte)) :
    SameReadable (a.writeAll cells) (b.writeAll cells) := by
  induction cells generalizing a b with
  | nil => exact same
  | cons first rest ih => exact ih (same.writeByte _ _)

/-- Entering low power forgets its request in both. -/
theorem clearHaltRequest (same : SameReadable a b) :
    SameReadable a.clearHaltRequest b.clearHaltRequest :=
  ⟨same.readByte, rfl⟩

/-! ### Interrupts and keys -/

/-- The requests are readable, and so the same. -/
theorem interruptFlags (same : SameReadable a b) : a.interruptFlags = b.interruptFlags :=
  same.readHalf (by decide) (by decide)

/-- Interrupts are pending in both or in neither. -/
theorem pendingInterrupts (same : SameReadable a b) :
    a.pendingInterrupts = b.pendingInterrupts := by
  have enabled : a.interruptEnable = b.interruptEnable := same.readHalf (by decide) (by decide)
  rw [IoRegisters.pendingInterrupts, enabled, same.interruptFlags]
  rfl

/-- Interrupts are switched on in both or in neither. -/
theorem masterEnable (same : SameReadable a b) : a.masterEnable = b.masterEnable :=
  congrArg (BitVec.getLsbD · 0) (same.readHalf (by decide) (by decide))

/-- A request is noted in both or in neither, as the condition and the register that it is noted in
are the same. -/
theorem requestIf (same : SameReadable a b) (condition : Bool) (source : Interrupt) :
    SameReadable (a.requestIf condition source) (b.requestIf condition source) := by
  cases condition with
  | false => exact same
  | true =>
      show SameReadable (a.requestInterrupt source) (b.requestInterrupt source)
      unfold requestInterrupt
      rw [same.interruptFlags]
      exact same.storeHalf _ _

/-- A key event shows in both, and asks for the interrupt in both or in neither, since the key
control is readable. -/
theorem setKey (same : SameReadable a b) (key : Key) (pressed : Bool) :
    SameReadable (a.setKey key pressed) (b.setKey key pressed) := by
  have keys {a b : IoRegisters} (same : SameReadable a b) : a.keyInput = b.keyInput :=
    same.readHalf (by decide) (by decide)
  have condition {a b : IoRegisters} (same : SameReadable a b) :
      a.keypadCondition = b.keypadCondition := by
    have control : a.readHalf .keycnt = b.readHalf .keycnt :=
      same.readHalf (by decide) (by decide)
    unfold keypadCondition
    rw [keys same, control]
  unfold IoRegisters.setKey
  dsimp only
  rw [keys same, condition (same.storeHalf .keyinput _)]
  exact (same.storeHalf _ _).requestIf _ _

/-! ### The clock -/

/-- A horizontal blank begins in both, with the same request. -/
theorem beginHBlank (same : SameReadable a b) : SameReadable a.beginHBlank b.beginHBlank := by
  have status : a.videoStatus = b.videoStatus := same.readHalf (by decide) (by decide)
  unfold IoRegisters.beginHBlank
  rw [status]
  exact (same.storeHalf _ _).requestIf _ _

/-- A line begins in both, with the same requests. -/
theorem beginLine (same : SameReadable a b) (line : Nat) :
    SameReadable (a.beginLine line) (b.beginLine line) := by
  have status : a.videoStatus = b.videoStatus := same.readHalf (by decide) (by decide)
  unfold IoRegisters.beginLine
  rw [status]
  exact (((same.storeHalf _ _).requestIf _ _).requestIf _ _).storeHalf _ _

end SameReadable

/-- What is stored where no program reads makes no difference. These bytes can be changed freely
without leaving the relation. -/
theorem sameReadable_storeByte (io : IoRegisters) {offset : IoOffset}
    (unreadable : Unreadable offset.toNat) (value : Byte) :
    SameReadable io (io.storeByte offset value) := by
  refine ⟨fun other readable => ?_, rfl⟩
  have apart : other ≠ offset := fun same => readable (same ▸ unreadable)
  rw [readByte_storeByte, if_neg apart]

end IoRegisters

/-! ## The clock -/

/-- The same point of time, with registers that differ at most where a program cannot read. -/
structure Scan.SameReadable (a b : Scan) : Prop where
  clock : a.clock = b.clock
  enteredVBlank : a.enteredVBlank = b.enteredVBlank
  io : a.io.SameReadable b.io

namespace Scan.SameReadable

variable {a b : Scan}

/-- The clock passes one boundary in both alike: the same line or blank begins, and the registers
that show it can be read. -/
theorem moveOn (same : SameReadable a b) (cycles : Nat) :
    SameReadable (a.moveOn cycles) (b.moveOn cycles) := by
  unfold Scan.moveOn
  dsimp only
  rw [same.clock]
  split
  · exact ⟨rfl, same.enteredVBlank, same.io.beginHBlank⟩
  · split
    · refine ⟨rfl, ?_, same.io.beginLine _⟩
      dsimp only
      rw [same.enteredVBlank]
    · exact ⟨rfl, same.enteredVBlank, same.io⟩

/-- The clock does the same to both over any number of cycles. By induction on the boundaries that
it passes. -/
theorem run (same : SameReadable a b) (cycles : Nat) :
    SameReadable (a.run cycles) (b.run cycles) := by
  induction cycles using Nat.strongRecOn generalizing a b with
  | ind cycles ih =>
      unfold Scan.run
      dsimp only
      rw [same.clock]
      split
      · exact same
      · apply ih
        · omega
        · exact same.moveOn _

end Scan.SameReadable

/-- The clock moves on alike, from the same position over the same cycles, and reports the same. -/
theorem IoRegisters.SameReadable.advance {a b : IoRegisters} (same : SameReadable a b)
    (clock : Clock) (cycles : Nat) :
    Scan.SameReadable (clock.advance a cycles) (clock.advance b cycles) := by
  have start : Scan.SameReadable ⟨clock, a, false⟩ ⟨clock, b, false⟩ := ⟨rfl, rfl, same⟩
  exact start.run cycles

namespace Bus

/-- Stores to memory do not look at the registers. -/
theorem store8_withIo (bus : Bus) (io : IoRegisters) (address : Word) (value : Byte) :
    ({ bus with io } : Bus).store8 address value = { bus.store8 address value with io } := by
  rw [store8_eq_store, store8_eq_store]
  cases Region.ofAddress address <;> rfl

/-- Bytes stored in memory do not go to the peripherals. -/
theorem storeAll_withIo (bus : Bus) (io : IoRegisters) (writes : List (Word × Byte)) :
    ({ bus with io } : Bus).storeAll writes = { bus.storeAll writes with io } := by
  induction writes generalizing bus with
  | nil => rfl
  | cons first rest ih =>
      refine Eq.trans ?_ (ih (bus.store8 first.1 first.2))
      rw [← store8_withIo]
      rfl

/-- Buses that differ at most in register bytes that a program cannot read back. -/
structure SameReadable (a b : Bus) : Prop where
  memory : b = { a with io := b.io }
  io : a.io.SameReadable b.io

namespace SameReadable

variable {a b : Bus}

theorem refl (bus : Bus) : SameReadable bus bus := ⟨rfl, .refl _⟩

/-! ### Reads -/

/-- Programs read the same byte from every address of both. -/
theorem read8 (same : SameReadable a b) (address : Word) : a.read8 address = b.read8 address := by
  by_cases peripheral : Region.ofAddress address = .io
  · unfold Bus.read8
    dsimp only
    rw [if_pos peripheral, if_pos peripheral, same.io.cpuReadByte]
  · rw [same.memory]
    exact (a.read8_withIo b.io peripheral).symm

/-- Every other stored byte is the same: all of memory, and of the peripherals all bytes but those
that no program reads. -/
theorem stored? (same : SameReadable a b) {region : Region} {offset : Nat}
    (readable : ¬ (region = .io ∧ IoOffset.Unreadable offset)) :
    a.stored? region offset = b.stored? region offset := by
  cases region with
  | io =>
      show a.io.bytes[offset]? = b.io.bytes[offset]?
      by_cases inside : offset < 1024
      · have position : (BitVec.ofNat 10 offset).toNat = offset := Nat.mod_eq_of_lt inside
        have byte := same.io.readByte (BitVec.ofNat 10 offset)
          (by rw [position]; exact fun unreadable => readable ⟨rfl, unreadable⟩)
        unfold IoRegisters.readByte at byte
        simp only [position] at byte
        rw [Vector.getElem?_eq_getElem inside, Vector.getElem?_eq_getElem inside, byte]
      · have outside := Nat.le_of_not_lt inside
        rw [Vector.getElem?_eq_none outside, Vector.getElem?_eq_none outside]
  | bios | ewram | iwram | palette | vram | oam | gamePak | sram | openBus =>
      rw [same.memory]
      rfl

/-! ### Stores -/

/-- One store of a program leaves both alike, whichever region it goes to, since a store never reads
a byte that it does not write. -/
theorem write (same : SameReadable a b) (store : Store) :
    SameReadable (a.write store.width store.address store.value)
      (b.write store.width store.address store.value) := by
  by_cases peripheral : Region.ofAddress store.address = .io
  · refine ⟨?_, ?_⟩
    · rw [b.write_of_io _ peripheral, a.write_of_io _ peripheral, same.memory]
    · rw [io_write _ _ peripheral, io_write _ _ peripheral]
      exact same.io.writeAll _
  · rw [write_eq_storeAll _ _ _ peripheral, write_eq_storeAll _ _ _ peripheral]
    refine ⟨?_, ?_⟩
    · rw [io_storeAll, ← storeAll_withIo, ← same.memory]
    · rw [io_storeAll, io_storeAll]
      exact same.io

/-- The stores of an instruction leave both alike. -/
theorem perform (same : SameReadable a b) (stores : List Store) :
    SameReadable (a.perform stores) (b.perform stores) := by
  induction stores generalizing a b with
  | nil => exact same
  | cons first rest ih => exact ih (same.write first)

/-- Buses with the same memory stay alike when their peripherals do. -/
theorem withIo (same : SameReadable a b) {ioA ioB : IoRegisters} (io : ioA.SameReadable ioB) :
    SameReadable { a with io := ioA } { b with io := ioB } := by
  refine ⟨?_, io⟩
  rw [same.memory]

end SameReadable

end Bus

end Handheld
