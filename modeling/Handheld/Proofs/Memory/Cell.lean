import Handheld.Memory.Bus
import Handheld.Proofs.Alignment
import Handheld.Proofs.Memory.Region
import Mathlib.Algebra.GroupWithZero.Nat

/-!
# The bytes that addresses stand for

A region shows its storage again and again over its window, so two addresses stand for the same
byte when they lie in one region and are folded to one position of its storage (`SameCell`). A byte
stored in a memory that programs can write is read back from every address that stands for it, and
no other byte changes (`Bus.read8_store8`). Neither does the order of stores to different bytes
matter (`Bus.read8_storeAll_of_mem`, `Bus.read8_storeAll_of_apart`).
-/

namespace Handheld

namespace Region

/-- Whether programs can store bytes in a region. The peripheral registers follow rules of their
own. -/
def isRam : Region → Bool
  | ewram | iwram | palette | vram | oam | sram => true
  | bios | io | gamePak | openBus => false

/-- The position in the storage of a region that the address of number `n` stands for. Video memory
shows the last third of its storage twice in every 128 KiB. -/
def fold (n : Nat) : Region → Nat
  | bios => n % 0x4000
  | ewram => n % 0x40000
  | iwram => n % 0x8000
  | io | palette | oam => n % 0x400
  | vram => if n % 0x20000 < 0x18000 then n % 0x20000 else n % 0x20000 - 0x8000
  | gamePak => n % 0x2000000
  | sram => n % 0x10000
  | openBus => 0

/-- Masking the lowest bits of an address is taking the remainder by a power of two. -/
theorem toNat_and_mask (address : Word) (count : Nat) (small : count ≤ 32) :
    (address &&& BitVec.ofNat 32 (2 ^ count - 1)).toNat = address.toNat % 2 ^ count := by
  have bound : 2 ^ count - 1 < 2 ^ 32 :=
    Nat.lt_of_lt_of_le (Nat.sub_lt (Nat.two_pow_pos _) Nat.one_pos)
      (Nat.pow_le_pow_right (by decide) small)
  rw [BitVec.toNat_and, BitVec.toNat_ofNat, Nat.mod_eq_of_lt bound,
    Nat.and_two_pow_sub_one_eq_mod]

/-- Addresses are folded by their lowest bits. Only video memory is not a power of two, and its last
quarter stands for the one before. -/
theorem offset?_eq_fold {region : Region} (stored : region ≠ openBus) (address : Word) :
    region.offset? address = some (fold address.toNat region) := by
  cases region with
  | bios => exact congrArg some (toNat_and_mask address 14 (by decide))
  | ewram => exact congrArg some (toNat_and_mask address 18 (by decide))
  | iwram => exact congrArg some (toNat_and_mask address 15 (by decide))
  | io | palette | oam => exact congrArg some (toNat_and_mask address 10 (by decide))
  | vram =>
      have low : (address &&& 0x1FFFF).toNat = address.toNat % 0x20000 :=
        toNat_and_mask address 17 (by decide)
      simp only [offset?, fold, low]
  | gamePak => exact congrArg some (toNat_and_mask address 25 (by decide))
  | sram => exact congrArg some (toNat_and_mask address 16 (by decide))
  | openBus => exact absurd rfl stored

/-- An address that is folded into a region lies inside the region, whatever its mirrors are. -/
theorem fold_lt_size {region : Region} (stored : region ≠ openBus) (n : Nat) :
    fold n region < region.size := by
  cases region with
  | vram =>
      simp only [fold, size]
      split <;> omega
  | openBus => exact absurd rfl stored
  | bios | ewram | iwram | io | palette | oam | gamePak | sram => exact Nat.mod_lt _ (by decide)

/-- The bytes of an aligned word are next to each other in storage, since no region is folded within
a word. -/
theorem fold_add {region : Region} (stored : region ≠ openBus) {n i : Nat}
    (inWord : n % 4 + i < 4) : fold (n + i) region = fold n region + i := by
  cases region with
  | vram =>
      simp only [fold]
      split <;> split <;> omega
  | openBus => exact absurd rfl stored
  | bios | ewram | iwram | io | palette | oam | gamePak | sram =>
      simp only [fold]
      omega

/-- An aligned word lies in one region. -/
theorem contains_add {region : Region} {n i : Nat} (inWord : n % 4 + i < 4) :
    Contains (n + i) region ↔ Contains n region := by
  cases region <;> simp only [Contains] <;> omega

/-- The bytes of one aligned word belong to one region. -/
theorem ofAddress_add {address next : Word} {i : Nat} (inWord : address.toNat % 4 + i < 4)
    (position : next.toNat = address.toNat + i) : ofAddress next = ofAddress address := by
  rw [ofAddress_eq_iff, position, contains_add inWord]
  exact contains_ofAddress address

/-- Every byte of an aligned word lies in the region of the word. -/
theorem ofAddress_lane (address : Word) {lane : Word} (inWord : lane.toNat < 4) :
    ofAddress (address.alignWord ||| lane) = ofAddress address.alignWord := by
  refine ofAddress_add ?_ (address.toNat_alignWord_or inWord)
  rw [Word.toNat_alignWord]
  omega

/-- An address and the word it lies in belong to the same region. -/
theorem ofAddress_alignWord (address : Word) : ofAddress address.alignWord = ofAddress address := by
  have position := address.toNat_alignWord
  exact (ofAddress_add (i := address.toNat % 4) (by omega) (by omega)).symm

/-- An address and the halfword it lies in belong to the same region. -/
theorem ofAddress_alignHalf (address : Word) : ofAddress address.alignHalf = ofAddress address := by
  have position := address.toNat_alignHalf
  exact (ofAddress_add (i := address.toNat % 2) (by omega) (by omega)).symm

/-- Memory that can be written is neither the I/O registers nor open bus. -/
theorem ne_of_isRam {region : Region} (ram : region.isRam = true) :
    region ≠ io ∧ region ≠ openBus := by
  constructor <;> rintro rfl <;> cases ram

end Region

/-- Whether two addresses stand for the same byte. -/
def SameCell (a b : Word) : Prop :=
  Region.ofAddress a = Region.ofAddress b ∧
    Region.fold a.toNat (Region.ofAddress a) = Region.fold b.toNat (Region.ofAddress b)

instance (a b : Word) : Decidable (SameCell a b) := inferInstanceAs (Decidable (_ ∧ _))

/-- Two addresses are the same cell if they belong to the same region and are folded to the same
offset. -/
theorem sameCell_iff (a b : Word) :
    SameCell a b ↔ Region.ofAddress a = Region.ofAddress b ∧
      Region.fold a.toNat (Region.ofAddress b) = Region.fold b.toNat (Region.ofAddress b) :=
  and_congr_right fun region => by rw [region]

/-- The last third of video memory is shown twice in a row, and again in every 128 KiB. -/
example : SameCell 0x06017FFC 0x0601FFFC ∧ SameCell 0x06017FFC 0x06037FFC ∧
    ¬ SameCell 0x0600FFFC 0x06017FFC := by
  decide

/-- Different bytes of an aligned word are different bytes of storage, so that the stores of one
word do not overwrite each other. -/
theorem eq_of_sameCell {address a b : Word} {i j : Nat}
    (ram : (Region.ofAddress address).isRam = true)
    (inWordA : address.toNat % 4 + i < 4) (positionA : a.toNat = address.toNat + i)
    (inWordB : address.toNat % 4 + j < 4) (positionB : b.toNat = address.toNat + j)
    (same : SameCell a b) : i = j := by
  have stored := (Region.ne_of_isRam ram).2
  have folded := same.2
  rw [Region.ofAddress_add inWordA positionA, Region.ofAddress_add inWordB positionB, positionA,
    positionB, Region.fold_add stored inWordA, Region.fold_add stored inWordB] at folded
  exact Nat.add_left_cancel folded

/-- The low byte of a halfword of a word is a byte of the word. -/
theorem Half.low_extract (word : Word) (start : Nat) :
    low (word.extractLsb' start 16) = word.extractLsb' start 8 := by
  ext i bound
  have inHalf : i < 16 := Nat.lt_trans bound (by decide)
  simp only [low, BitVec.getElem_extractLsb', BitVec.getLsbD_extractLsb', Nat.zero_add, inHalf,
    decide_true, Bool.true_and]

/-- So is its high byte, eight bits further. -/
theorem Half.high_extract (word : Word) (start : Nat) :
    high (word.extractLsb' start 16) = word.extractLsb' (start + 8) 8 := by
  ext i bound
  have inHalf : 8 + i < 16 := Nat.add_lt_add_left bound 8
  simp only [high, BitVec.getElem_extractLsb', BitVec.getLsbD_extractLsb', inHalf, decide_true,
    Bool.true_and, Nat.add_assoc]

namespace Bus

variable (bus : Bus)

/-! ## One byte -/

/-- Bytes of memory are not those of the peripherals. -/
@[simp] theorem io_store (region : Region) (offset : Nat) (value : Byte) :
    (bus.store region offset value).io = bus.io := by
  cases region <;> rfl

/-- A store to one region leaves every other region as it was, since each has storage of its own. -/
theorem stored?_store_of_ne {region other : Region} (different : other ≠ region)
    (offset i : Nat) (value : Byte) :
    (bus.store region offset value).stored? other i = bus.stored? other i := by
  cases region <;> cases other <;> first | rfl | exact absurd rfl different

/-- A store to memory that can be written changes the byte at its offset, and no other byte of the
region. -/
theorem stored?_store {region : Region} (ram : region.isRam = true) {offset : Nat}
    (inside : offset < region.size) (i : Nat) (value : Byte) :
    (bus.store region offset value).stored? region i =
      if i = offset then some value else bus.stored? region i := by
  have either (cell : Option Byte) :
      (if offset = i then (if offset < region.size then some value else none) else cell) =
        if i = offset then some value else cell := by
    rw [if_pos inside]
    by_cases hit : i = offset
    · rw [if_pos hit, if_pos hit.symm]
    · rw [if_neg hit, if_neg (Ne.symm hit)]
  cases region with
  | ewram => exact (Vector.getElem?_setIfInBounds ..).trans (either _)
  | iwram => exact (Vector.getElem?_setIfInBounds ..).trans (either _)
  | palette => exact (Vector.getElem?_setIfInBounds ..).trans (either _)
  | vram => exact (Vector.getElem?_setIfInBounds ..).trans (either _)
  | oam => exact (Vector.getElem?_setIfInBounds ..).trans (either _)
  | sram => exact (Vector.getElem?_setIfInBounds ..).trans (either _)
  | bios | io | gamePak | openBus => cases ram

/-- Outside the peripherals a read gives the stored byte, and the value of open bus where nothing is
stored. -/
theorem read8_eq_stored {address : Word} (outside : Region.ofAddress address ≠ .io) :
    bus.read8 address =
      (bus.stored? (Region.ofAddress address)
        (Region.fold address.toNat (Region.ofAddress address))).getD openBusValue := by
  unfold read8
  dsimp only
  rw [if_neg outside]
  by_cases unmapped : Region.ofAddress address = .openBus
  · rw [unmapped]
    rfl
  · rw [Region.offset?_eq_fold unmapped]

/-- Storing a byte at an address is storing it in its region at the folded offset. Regions that
cannot be written ignore it. -/
theorem store8_eq_store (address : Word) (value : Byte) :
    bus.store8 address value =
      bus.store (Region.ofAddress address) (Region.fold address.toNat (Region.ofAddress address))
        value := by
  unfold store8
  dsimp only
  by_cases unmapped : Region.ofAddress address = .openBus
  · rw [unmapped]
    rfl
  · rw [Region.offset?_eq_fold unmapped]

/-- Only addresses of their own region show the peripheral registers, so a change of these is seen
nowhere else. -/
theorem read8_withIo (io : IoRegisters) {address : Word}
    (elsewhere : Region.ofAddress address ≠ .io) :
    ({ bus with io } : Bus).read8 address = bus.read8 address := by
  unfold read8
  cases region : Region.ofAddress address <;> first | rfl | exact absurd region elsewhere

/-- Byte stores to memory never reach the I/O registers. -/
@[simp] theorem io_store8 (address : Word) (value : Byte) :
    (bus.store8 address value).io = bus.io := by
  rw [store8_eq_store, io_store]

/-- What is no memory that programs can write keeps its bytes. -/
theorem store8_of_not_ram {address : Word} (fixed : (Region.ofAddress address).isRam = false)
    (value : Byte) : bus.store8 address value = bus := by
  rw [store8_eq_store]
  cases region : Region.ofAddress address <;> first | rfl | (rw [region] at fixed; cases fixed)

/-- A stored byte is read back where the address stands for it, and nowhere else. With mirrors these
can be many addresses of one region. -/
theorem read8_store8 {address : Word} (ram : (Region.ofAddress address).isRam = true)
    (value : Byte) (other : Word) :
    (bus.store8 address value).read8 other =
      if SameCell other address then value else bus.read8 other := by
  obtain ⟨notIo, mapped⟩ := Region.ne_of_isRam ram
  by_cases peripheral : Region.ofAddress other = .io
  · have apart : ¬ SameCell other address := fun same => notIo (same.1 ▸ peripheral)
    simp only [read8, peripheral, io_store8, apart, ↓reduceIte]
  · rw [read8_eq_stored _ peripheral, read8_eq_stored _ peripheral, store8_eq_store]
    by_cases region : Region.ofAddress other = Region.ofAddress address
    · rw [region, stored?_store _ ram (Region.fold_lt_size mapped _)]
      simp only [sameCell_iff, region, true_and]
      split <;> rfl
    · have apart : ¬ SameCell other address := fun same => region same.1
      rw [stored?_store_of_ne _ region, if_neg apart]

/-! ## Halfwords and words -/

/-- A halfword that is written to memory is two bytes, at the aligned address and the one after it,
the low byte first. -/
theorem write16_eq_store8 {address : Word} (outside : Region.ofAddress address ≠ .io)
    (value : Half) :
    bus.write16 address value =
      (bus.store8 address.alignHalf value.low).store8 (address.alignHalf ||| 1) value.high := by
  unfold write16
  dsimp only
  rw [Region.ofAddress_alignHalf, if_neg outside]

/-- A word that is written to memory is four bytes at the aligned address, stored from the lowest to
the highest. -/
theorem write32_eq_store8 {address : Word} (outside : Region.ofAddress address ≠ .io)
    (value : Word) :
    bus.write32 address value =
      (((bus.store8 (address.alignWord ||| 0) (value.extractLsb' 0 8)).store8
        (address.alignWord ||| 1) (value.extractLsb' 8 8)).store8
        (address.alignWord ||| 2) (value.extractLsb' 16 8)).store8
        (address.alignWord ||| 3) (value.extractLsb' 24 8) := by
  have lower : address.alignWord.alignHalf = address.alignWord := by
    rw [Word.alignHalf_eq_self_iff, Word.toNat_alignWord]
    omega
  have upper : (address.alignWord ||| 2).alignHalf = address.alignWord ||| 2 := by
    have position : (address.alignWord ||| 2).toNat = address.alignWord.toNat + 2 :=
      address.toNat_alignWord_or (by decide)
    rw [Word.alignHalf_eq_self_iff, position, Word.toNat_alignWord]
    omega
  have outsideLower : Region.ofAddress address.alignWord ≠ .io := by
    rw [Region.ofAddress_alignWord]
    exact outside
  have outsideUpper : Region.ofAddress (address.alignWord ||| 2) ≠ .io := by
    rw [Region.ofAddress_lane address (by decide)]
    exact outsideLower
  have last : address.alignWord ||| 2 ||| 1 = address.alignWord ||| 3 := BitVec.or_assoc _ _ _
  have first : address.alignWord ||| 0 = address.alignWord := BitVec.or_zero
  rw [write32, write16_eq_store8 _ outsideLower, write16_eq_store8 _ outsideUpper, lower, upper,
    last, first]
  rw [Word.lowHalf, Word.highHalf, Half.low_extract, Half.high_extract, Half.low_extract,
    Half.high_extract]

/-! ## Several bytes -/

/-- Stores bytes one after the other. -/
def storeAll (writes : List (Word × Byte)) : Bus :=
  writes.foldl (fun bus write => bus.store8 write.1 write.2) bus

@[simp] theorem io_storeAll (writes : List (Word × Byte)) :
    (bus.storeAll writes).io = bus.io := by
  induction writes generalizing bus with
  | nil => rfl
  | cons first rest ih => exact (ih _).trans (bus.io_store8 _ _)

variable {writes : List (Word × Byte)} {other : Word}

/-- Stores where there is no memory that can be written change nothing at all. They are dropped one
by one. -/
theorem storeAll_of_not_ram
    (fixed : ∀ write ∈ writes, (Region.ofAddress write.1).isRam = false) :
    bus.storeAll writes = bus := by
  induction writes with
  | nil => rfl
  | cons first rest ih =>
      rw [List.forall_mem_cons] at fixed
      refine Eq.trans ?_ (ih fixed.2)
      rw [storeAll, List.foldl_cons, store8_of_not_ram _ fixed.1, storeAll]

/-- Bytes that no store stands for are kept. By induction on the stores, each of which passes by. -/
theorem read8_storeAll_of_apart
    (ram : ∀ write ∈ writes, (Region.ofAddress write.1).isRam = true)
    (apart : ∀ write ∈ writes, ¬ SameCell other write.1) :
    (bus.storeAll writes).read8 other = bus.read8 other := by
  induction writes generalizing bus with
  | nil => rfl
  | cons first rest ih =>
      rw [List.forall_mem_cons] at ram apart
      refine (ih (bus.store8 first.1 first.2) ram.2 apart.2).trans ?_
      rw [read8_store8 _ ram.1, if_neg apart.1]

/-- Of stores to different bytes, each is read back, since those after it do not reach its byte. By
induction on the stores. -/
theorem read8_storeAll_of_mem
    (ram : ∀ write ∈ writes, (Region.ofAddress write.1).isRam = true)
    (different : writes.Pairwise fun a b => ¬ SameCell a.1 b.1) {write : Word × Byte}
    (member : write ∈ writes) (same : SameCell other write.1) :
    (bus.storeAll writes).read8 other = write.2 := by
  induction writes generalizing bus with
  | nil => cases member
  | cons first rest ih =>
      rw [List.forall_mem_cons] at ram
      rw [List.pairwise_cons] at different
      rcases List.mem_cons.mp member with rfl | later
      · have kept (next : Word × Byte) (isNext : next ∈ rest) : ¬ SameCell other next.1 :=
          fun again => different.1 next isNext
            ⟨same.1.symm.trans again.1, same.2.symm.trans again.2⟩
        refine (read8_storeAll_of_apart _ ram.2 kept).trans ?_
        rw [read8_store8 _ ram.1, if_pos same]
      · exact ih (bus.store8 first.1 first.2) ram.2 different.2 later

end Bus

end Handheld
