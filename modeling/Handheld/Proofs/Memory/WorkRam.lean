import Handheld.Cpu.Machine
import Handheld.Proofs.Memory.Cell

/-!
# Words of work memory

The two work memories are the only regions that behave as plain memory in every width, each of them
shown again and again over its window. `Bus.workCell?` numbers their bytes, so that two addresses
stand for the same byte exactly when they have the same cell. A word written to work memory is read
back from every address that stands for it, and no other word changes (`Bus.read32_write32`); the
same holds of a list of writes to different words (`Bus.read32_storeWords`,
`Bus.read32_storeWords_of_apart`, and `Bus.read8_storeWords_of_apart` for single bytes).
-/

namespace Handheld

/-- A word is made up of its four bytes, so that taking it apart and putting it together gives it
back. -/
theorem Word.ofBytes_extract (word : Word) :
    ofBytes (word.extractLsb' 0 8) (word.extractLsb' 8 8) (word.extractLsb' 16 8)
      (word.extractLsb' 24 8) = word := by
  have upper : word.extractLsb' 24 8 ++ word.extractLsb' 16 8 = word.extractLsb' 16 16 :=
    BitVec.extractLsb'_append_extractLsb'_eq_extractLsb' rfl
  have most : word.extractLsb' 16 16 ++ word.extractLsb' 8 8 = word.extractLsb' 8 24 :=
    BitVec.extractLsb'_append_extractLsb'_eq_extractLsb' rfl
  have whole : word.extractLsb' 8 24 ++ word.extractLsb' 0 8 = word.extractLsb' 0 32 :=
    BitVec.extractLsb'_append_extractLsb'_eq_extractLsb' rfl
  rw [ofBytes, upper]
  exact (congrArg (· ++ _) most).trans (whole.trans BitVec.extractLsb'_eq_self)

namespace Bus

/-- The number of the byte of work memory that an address stands for: first the memory outside the
processor, then the one on it. -/
def workCell? (address : Word) : Option Nat :=
  match Region.ofAddress address with
  | .ewram => some (address &&& 0x3FFFF).toNat
  | .iwram => some (0x40000 + (address &&& 0x7FFF).toNat)
  | _ => none

theorem toNat_offset_ewram (address : Word) :
    (address &&& 0x3FFFF).toNat = address.toNat % 0x40000 :=
  Region.toNat_and_mask address 18 (by decide)

theorem toNat_offset_iwram (address : Word) :
    (address &&& 0x7FFF).toNat = address.toNat % 0x8000 :=
  Region.toNat_and_mask address 15 (by decide)

theorem workCell?_eq_some_iff (address : Word) (cell : Nat) :
    workCell? address = some cell ↔
      (0x2000000 ≤ address.toNat ∧ address.toNat < 0x3000000 ∧
        cell = address.toNat % 0x40000) ∨
      (0x3000000 ≤ address.toNat ∧ address.toNat < 0x4000000 ∧
        cell = 0x40000 + address.toNat % 0x8000) := by
  have outside := Region.ofAddress_eq_iff address .ewram
  have inside := Region.ofAddress_eq_iff address .iwram
  simp only [Region.Contains] at outside inside
  unfold workCell?
  split
  · rename_i region
    rw [region] at outside inside
    simp only [true_iff, reduceCtorEq, false_iff] at outside inside
    rw [toNat_offset_ewram, Option.some_inj]
    omega
  · rename_i region
    rw [region] at outside inside
    simp only [true_iff, reduceCtorEq, false_iff] at outside inside
    rw [toNat_offset_iwram, Option.some_inj]
    omega
  · rename_i notOutside notInside
    have notOutside := mt outside.mpr notOutside
    have notInside := mt inside.mpr notInside
    simp only [reduceCtorEq, false_iff]
    omega

theorem mod_four_of_workCell? {address : Word} {cell : Nat}
    (work : workCell? address.alignWord = some cell) : cell % 4 = 0 := by
  rw [workCell?_eq_some_iff, Word.toNat_alignWord] at work
  omega

/-- The bytes of an aligned word are next to each other in work memory, and none of them is part of
another aligned word. -/
theorem workCell?_lane (address : Word) {lane : Word} (inWord : lane.toNat < 4) {cell index : Nat}
    (first : cell % 4 = 0) (inCells : index < 4) :
    workCell? (address.alignWord ||| lane) = some (cell + index) ↔
      index = lane.toNat ∧ workCell? address.alignWord = some cell := by
  rw [workCell?_eq_some_iff, workCell?_eq_some_iff, Word.toNat_alignWord_or _ inWord,
    Word.toNat_alignWord]
  omega

/-- Up to sixteen consecutive words of work memory are different words, also where they wrap around
in a memory or go on from one memory to the other. -/
theorem workCell?_ne_of_consecutive {start : Word} {i j : Nat} (before : i < j) (few : j < 16)
    (work : (workCell? (start + BitVec.ofNat 32 (4 * i)).alignWord).isSome) :
    workCell? (start + BitVec.ofNat 32 (4 * i)).alignWord ≠
      workCell? (start + BitVec.ofNat 32 (4 * j)).alignWord := by
  obtain ⟨cell, first⟩ := Option.isSome_iff_exists.mp work
  intro same
  have second := same.symm.trans first
  rw [workCell?_eq_some_iff, Word.toNat_alignWord, BitVec.toNat_add, BitVec.toNat_ofNat]
    at first second
  omega

/-! ## Bytes -/

theorem isRam_of_workCell? {address : Word} {cell : Nat}
    (work : workCell? address = some cell) : (Region.ofAddress address).isRam = true := by
  unfold workCell? at work
  split at work
  · rename_i region
    rw [region]
    rfl
  · rename_i region
    rw [region]
    rfl
  · cases work

/-- Cells number the bytes of work memory: two addresses have the same number if they are the same
byte of storage. -/
theorem workCell?_eq_iff_sameCell {address : Word} {cell : Nat}
    (work : workCell? address = some cell) (other : Word) :
    workCell? other = some cell ↔ SameCell other address := by
  rw [sameCell_iff, workCell?_eq_some_iff]
  rcases (workCell?_eq_some_iff address cell).mp work with ⟨low, high, isCell⟩ | ⟨low, high, isCell⟩
  · have region := (Region.ofAddress_eq_iff address .ewram).mpr ⟨low, high⟩
    rw [region, Region.ofAddress_eq_iff]
    simp only [Region.Contains, Region.fold]
    omega
  · have region := (Region.ofAddress_eq_iff address .iwram).mpr ⟨low, high⟩
    rw [region, Region.ofAddress_eq_iff]
    simp only [Region.Contains, Region.fold]
    omega

/-- A byte written to work memory is read back where the address stands for it, that is at all its
mirrors, and nowhere else. -/
theorem read8_store8_of_work (bus : Bus) {address : Word} {cell : Nat}
    (work : workCell? address = some cell) (value : Byte) (other : Word) :
    (bus.store8 address value).read8 other =
      if workCell? other = some cell then value else bus.read8 other := by
  simp only [workCell?_eq_iff_sameCell work, read8_store8 bus (isRam_of_workCell? work)]

/-! ## Words -/

theorem ofAddress_ne_io {address : Word} {cell : Nat}
    (work : workCell? address.alignWord = some cell) : Region.ofAddress address ≠ .io := by
  rw [← Region.ofAddress_alignWord]
  exact (Region.ne_of_isRam (isRam_of_workCell? work)).1

/-- A word written to work memory is read back where the address stands for it, and nowhere else.
Its bytes are followed one by one. -/
theorem read32_write32 (bus : Bus) {address : Word} {cell : Nat}
    (work : workCell? address.alignWord = some cell) (value other : Word) :
    (bus.write32 address value).read32 other =
      if workCell? other.alignWord = some cell then value else bus.read32 other := by
  have aligned := mod_four_of_workCell? work
  have written (lane : Word) (inWord : lane.toNat < 4) :
      workCell? (address.alignWord ||| lane) = some (cell + lane.toNat) :=
    (workCell?_lane address inWord aligned inWord).mpr ⟨rfl, work⟩
  have hit (lane : Word) (inWord : lane.toNat < 4) (index : Word) (inCells : index.toNat < 4) :
      workCell? (other.alignWord ||| lane) = some (cell + index.toNat) ↔
        index = lane ∧ workCell? other.alignWord = some cell := by
    rw [workCell?_lane other inWord aligned inCells, BitVec.toNat_inj]
  have bytes (lane : Word) (inWord : lane.toNat < 4) :
      (bus.write32 address value).read8 (other.alignWord ||| lane) =
        if workCell? other.alignWord = some cell then value.extractLsb' (8 * lane.toNat) 8
        else bus.read8 (other.alignWord ||| lane) := by
    rw [write32_eq_store8 bus (ofAddress_ne_io work),
      read8_store8_of_work _ (written 3 (by decide)),
      read8_store8_of_work _ (written 2 (by decide)),
      read8_store8_of_work _ (written 1 (by decide)),
      read8_store8_of_work _ (written 0 (by decide))]
    simp only [hit lane inWord 3 (by decide), hit lane inWord 2 (by decide),
      hit lane inWord 1 (by decide), hit lane inWord 0 (by decide)]
    by_cases same : workCell? other.alignWord = some cell
    · simp only [same, and_true, ↓reduceIte]
      have lanes : lane = 3 ∨ lane = 2 ∨ lane = 1 ∨ lane = 0 := by
        simp only [← BitVec.toNat_inj, BitVec.ofNat_eq_ofNat, BitVec.toNat_ofNat]
        omega
      rcases lanes with rfl | rfl | rfl | rfl <;> rfl
    · simp only [same, and_false, ↓reduceIte]
  have first : other.alignWord ||| 0 = other.alignWord := BitVec.or_zero
  have byte0 := bytes 0 (by decide)
  rw [first] at byte0
  unfold read32
  dsimp only
  rw [byte0, bytes 1 (by decide), bytes 2 (by decide), bytes 3 (by decide)]
  split
  · exact Word.ofBytes_extract value
  · rfl

/-- Words below the peripheral registers do not depend on them: boot ROM and work memory, with all
their mirrors. -/
theorem read32_withIo (bus : Bus) (io : IoRegisters) {address : Word}
    (below : address.toNat < 0x4000000) :
    ({ bus with io } : Bus).read32 address = bus.read32 address := by
  have byte (other : Word) (below : other.toNat < 0x4000000) :
      ({ bus with io } : Bus).read8 other = bus.read8 other := by
    have elsewhere := mt (Region.ofAddress_eq_iff other .io).mp
      (fun inside => absurd inside.1 (Nat.not_le_of_lt below))
    exact read8_withIo bus io elsewhere
  have lane (lane : Word) (inWord : lane.toNat < 4) :
      (address.alignWord ||| lane).toNat < 0x4000000 := by
    rw [Word.toNat_alignWord_or _ inWord, Word.toNat_alignWord]
    omega
  have base : address.alignWord.toNat < 0x4000000 := by
    rw [Word.toNat_alignWord]
    omega
  unfold read32
  dsimp only
  rw [byte _ base, byte _ (lane 1 (by decide)), byte _ (lane 2 (by decide)),
    byte _ (lane 3 (by decide))]

/-- A word written to work memory does not reach the peripherals, so no interrupt is requested or
acknowledged by it. -/
theorem io_write32 (bus : Bus) {address : Word} {cell : Nat}
    (work : workCell? address.alignWord = some cell) (value : Word) :
    (bus.write32 address value).io = bus.io := by
  rw [write32_eq_store8 bus (ofAddress_ne_io work)]
  simp only [io_store8]

/-! ## Lists of writes -/

/-- Words of work memory that are stored somewhere else keep their values. By induction on the words
that are stored. -/
theorem read32_storeWords_of_apart {writes : List (Word × Word)} {other : Word}
    (work : ∀ write ∈ writes, (workCell? write.1.alignWord).isSome)
    (apart : ∀ write ∈ writes, workCell? write.1.alignWord ≠ workCell? other.alignWord)
    (m : Machine) : (m.storeWords writes).bus.read32 other = m.bus.read32 other := by
  induction writes generalizing m with
  | nil => rfl
  | cons first rest ih =>
      rw [List.forall_mem_cons] at work apart
      obtain ⟨cell, isCell⟩ := Option.isSome_iff_exists.mp work.1
      refine (ih work.2 apart.2 (m.storeWord first.1 first.2)).trans ?_
      show (m.bus.write32 first.1 first.2).read32 other = _
      rw [read32_write32 _ isCell, if_neg]
      intro same
      exact apart.1 (isCell.trans same.symm)

/-- Each of the words written to different places is read back, as those after it go elsewhere. By
induction on the words. -/
theorem read32_storeWords {writes : List (Word × Word)}
    (work : ∀ write ∈ writes, (workCell? write.1.alignWord).isSome)
    (apart : writes.Pairwise fun first second =>
      workCell? first.1.alignWord ≠ workCell? second.1.alignWord)
    {write : Word × Word} (member : write ∈ writes) (m : Machine) :
    (m.storeWords writes).bus.read32 write.1 = write.2 := by
  induction writes generalizing m with
  | nil => cases member
  | cons first rest ih =>
      rw [List.forall_mem_cons] at work
      rw [List.pairwise_cons] at apart
      rcases List.mem_cons.mp member with rfl | later
      · obtain ⟨cell, isCell⟩ := Option.isSome_iff_exists.mp work.1
        have kept := read32_storeWords_of_apart work.2
          (fun second present => (apart.1 second present).symm) (m.storeWord write.1 write.2)
        refine kept.trans ?_
        show (m.bus.write32 write.1 write.2).read32 write.1 = _
        rw [read32_write32 _ isCell, if_pos isCell]
      · exact ih work.2 apart.2 later (m.storeWord first.1 first.2)

/-- Bytes of words that are stored somewhere else keep their values, also within memory that is not
work memory. -/
theorem read8_storeWords_of_apart {writes : List (Word × Word)} {other : Word}
    (work : ∀ write ∈ writes, (workCell? write.1.alignWord).isSome)
    (apart : ∀ write ∈ writes, ∀ lane : Word, lane.toNat < 4 →
      ¬ SameCell other (write.1.alignWord ||| lane))
    (m : Machine) : (m.storeWords writes).bus.read8 other = m.bus.read8 other := by
  induction writes generalizing m with
  | nil => rfl
  | cons first rest ih =>
      rw [List.forall_mem_cons] at work apart
      obtain ⟨cell, isCell⟩ := Option.isSome_iff_exists.mp work.1
      have ram (lane : Word) (inWord : lane.toNat < 4) :
          (Region.ofAddress (first.1.alignWord ||| lane)).isRam = true := by
        rw [Region.ofAddress_lane _ inWord]
        exact isRam_of_workCell? isCell
      refine (ih work.2 apart.2 (m.storeWord first.1 first.2)).trans ?_
      show (m.bus.write32 first.1 first.2).read8 other = _
      rw [write32_eq_store8 m.bus (ofAddress_ne_io isCell), read8_store8 _ (ram 3 (by decide)),
        if_neg (apart.1 3 (by decide)), read8_store8 _ (ram 2 (by decide)),
        if_neg (apart.1 2 (by decide)), read8_store8 _ (ram 1 (by decide)),
        if_neg (apart.1 1 (by decide)), read8_store8 _ (ram 0 (by decide)),
        if_neg (apart.1 0 (by decide))]

theorem io_storeWords {writes : List (Word × Word)}
    (work : ∀ write ∈ writes, (workCell? write.1.alignWord).isSome) (m : Machine) :
    (m.storeWords writes).bus.io = m.bus.io := by
  induction writes generalizing m with
  | nil => rfl
  | cons first rest ih =>
      rw [List.forall_mem_cons] at work
      obtain ⟨cell, isCell⟩ := Option.isSome_iff_exists.mp work.1
      exact (ih work.2 (m.storeWord first.1 first.2)).trans (io_write32 _ isCell _)

end Bus

end Handheld
