import Handheld.Proofs.Memory.Cell

/-!
# Reading what was written

What a write of any width stores depends on the region alone: the bytes of the value from the
aligned address on, one byte twice, or nothing (`Bus.written`). A write outside the peripherals
stores exactly these bytes (`Bus.write_eq_storeAll`), which are different bytes of storage, so that
`Bus.read_after_write` says of every address what is read there afterwards.
-/

namespace Handheld

/-- The widths of memory accesses. -/
inductive Width where
  | byte
  | half
  | word
  deriving DecidableEq, Repr

namespace Width

/-- The bytes of an access. -/
def bytes : Width → Nat
  | byte => 1
  | half => 2
  | word => 4

/-- The bits of an access. -/
def bits : Width → Nat
  | byte => 8
  | half => 16
  | word => 32

/-- The address of a byte of the aligned unit that holds an address. -/
def place (width : Width) (address : Word) (i : Nat) : Word :=
  BitVec.ofNat 32 (address.toNat / width.bytes * width.bytes + i)

variable (width : Width) (address : Word) {i : Nat}

theorem bytes_pos : 0 < width.bytes := by
  cases width <;> decide

/-- A transfer starts at the largest multiple of its width that is not above the address it was
asked for, and its bytes lie there one after the other. -/
theorem toNat_place (inside : i < width.bytes) :
    (width.place address i).toNat = address.toNat / width.bytes * width.bytes + i := by
  have bound := address.isLt
  rw [place, BitVec.toNat_ofNat]
  refine Nat.mod_eq_of_lt ?_
  cases width <;> simp only [bytes] at inside ⊢ <;> omega

/-- An aligned unit lies in an aligned word. -/
theorem place_inWord (inside : i < width.bytes) :
    (width.place address 0).toNat % 4 + i < 4 := by
  rw [toNat_place _ _ width.bytes_pos]
  cases width <;> simp only [bytes] at inside ⊢ <;> omega

/-- Byte `i` of a transfer lies `i` bytes after its first one. No transfer passes the end of the
address space, so nothing wraps around. -/
theorem toNat_place_eq_add (inside : i < width.bytes) :
    (width.place address i).toNat = (width.place address 0).toNat + i := by
  rw [toNat_place _ _ inside, toNat_place _ _ width.bytes_pos, Nat.add_zero]

/-- All bytes of one transfer belong to the region of the address it was asked for, since no region
ends within a word. -/
theorem ofAddress_place (inside : i < width.bytes) :
    Region.ofAddress (width.place address i) = Region.ofAddress address := by
  have first : Region.ofAddress address = Region.ofAddress (width.place address 0) := by
    have position := width.toNat_place address width.bytes_pos
    refine Region.ofAddress_add (i := address.toNat % width.bytes) ?_ ?_
    · exact width.place_inWord address (Nat.mod_lt _ width.bytes_pos)
    · have split := Nat.div_add_mod address.toNat width.bytes
      rw [Nat.mul_comm] at split
      omega
  rw [first]
  exact Region.ofAddress_add (width.place_inWord address inside)
    (width.toNat_place_eq_add address inside)

theorem place_byte : byte.place address 0 = address := by
  rw [← BitVec.toNat_inj, toNat_place _ _ (by decide)]
  simp only [bytes]
  omega

theorem place_half : half.place address 0 = address.alignHalf := by
  rw [← BitVec.toNat_inj, toNat_place _ _ (by decide), Word.toNat_alignHalf]
  rfl

/-- The second byte of a halfword is at the odd address that follows the aligned one, as the model
computes it. -/
theorem place_half_one : half.place address 1 = address.alignHalf ||| 1 := by
  rw [← BitVec.toNat_inj, toNat_place _ _ (by decide), Word.toNat_alignHalf_or _ (by decide),
    Word.toNat_alignHalf]
  rfl

/-- A byte of a word is at the aligned address with the number of the byte put into its two lowest
bits. -/
theorem place_word {lane : Word} (inWord : lane.toNat < 4) :
    word.place address lane.toNat = address.alignWord ||| lane := by
  rw [← BitVec.toNat_inj, toNat_place _ _ inWord, Word.toNat_alignWord_or _ inWord,
    Word.toNat_alignWord]
  rfl

end Width

namespace Bus

/-- Reads the unit of a width that holds an address. -/
def read (bus : Bus) : (width : Width) → Word → BitVec width.bits
  | .byte, address => bus.read8 address
  | .half, address => bus.read16 address
  | .word, address => bus.read32 address

/-- Writes the unit of a width that holds an address. -/
def write (bus : Bus) : (width : Width) → Word → BitVec width.bits → Bus
  | .byte, address, value => bus.write8 address value
  | .half, address, value => bus.write16 address value
  | .word, address, value => bus.write32 address value

/-- The addresses of the aligned unit that holds an address, each with a byte. -/
def unit (width : Width) (address : Word) (content : Nat → Byte) : List (Word × Byte) :=
  (List.range width.bytes).map fun i => (width.place address i, content i)

/-- The bytes that a write stores in memory. -/
def written (width : Width) (address : Word) (value : BitVec width.bits) : List (Word × Byte) :=
  let littleEndian := unit width address fun i => value.extractLsb' (8 * i) 8
  match Region.ofAddress address, width with
  | .ewram, _ | .iwram, _ | .sram, _ => littleEndian
  | .palette, .byte | .vram, .byte => unit .half address fun _ => value.setWidth 8
  | .oam, .byte => []
  | .palette, _ | .vram, _ | .oam, _ => littleEndian
  | .bios, _ | .io, _ | .gamePak, _ | .openBus, _ => []

variable (bus : Bus) (width : Width) (address : Word)

/-! ## The bytes that are stored -/

/-- The cells of a transfer are its places, each with the byte that goes there. This is how single
bytes of it are got at. -/
theorem mem_unit {content : Nat → Byte} {cell : Word × Byte} :
    cell ∈ unit width address content ↔
      ∃ i < width.bytes, cell = (width.place address i, content i) := by
  simp only [unit, List.mem_map, List.mem_range, eq_comm]

/-- The bytes of an aligned unit are different bytes of storage, so that none is overwritten by
another. -/
theorem pairwise_unit (ram : (Region.ofAddress address).isRam = true) (content : Nat → Byte) :
    (unit width address content).Pairwise fun a b => ¬ SameCell a.1 b.1 := by
  rw [unit, List.pairwise_map]
  refine List.Pairwise.imp_of_mem ?_ List.pairwise_lt_range
  intro i j insideI insideJ lower same
  rw [List.mem_range] at insideI insideJ
  have firstRam : (Region.ofAddress (width.place address 0)).isRam = true := by
    rw [width.ofAddress_place address width.bytes_pos]
    exact ram
  have equal : i = j := eq_of_sameCell firstRam
    (width.place_inWord address insideI) (width.toNat_place_eq_add address insideI)
    (width.place_inWord address insideJ) (width.toNat_place_eq_add address insideJ) same
  exact Nat.ne_of_lt lower equal

variable {width} in
/-- A write stores one unit of a memory that programs can write, or nothing. The unit may be wider
than the write, as in video memory. -/
theorem written_cases (value : BitVec width.bits) :
    written width address value = [] ∨
      (Region.ofAddress address).isRam = true ∧
        ∃ unitWidth content, written width address value = unit unitWidth address content := by
  unfold written
  cases Region.ofAddress address with
  | bios | io | gamePak | openBus => exact .inl rfl
  | ewram | iwram | sram => exact .inr ⟨rfl, _, _, rfl⟩
  | palette | vram => cases width <;> exact .inr ⟨rfl, _, _, rfl⟩
  | oam =>
      cases width with
      | byte => exact .inl rfl
      | half | word => exact .inr ⟨rfl, _, _, rfl⟩

/-- Nothing but memory that can be written is ever written: the boot ROM, the Game Pak and open bus
ignore stores. -/
theorem isRam_of_mem_written {value : BitVec width.bits} {cell : Word × Byte}
    (member : cell ∈ written width address value) :
    (Region.ofAddress cell.1).isRam = true := by
  rcases written_cases address value with nothing | ⟨ram, unitWidth, content, same⟩
  · rw [nothing] at member
    cases member
  · rw [same, mem_unit] at member
    obtain ⟨i, inside, rfl⟩ := member
    rw [unitWidth.ofAddress_place address inside]
    exact ram

/-- One store writes no cell twice, so the order in which its bytes are stored does not matter. -/
theorem pairwise_written (value : BitVec width.bits) :
    (written width address value).Pairwise fun a b => ¬ SameCell a.1 b.1 := by
  rcases written_cases address value with nothing | ⟨ram, unitWidth, content, same⟩
  · rw [nothing]
    exact .nil
  · rw [same]
    exact pairwise_unit unitWidth address ram content

/-! ## Writes -/

/-- Outside of the I/O registers the halfword store is two byte stores at the places of its unit,
the low byte first. -/
theorem write16_eq_storeAll {address : Word} (outside : Region.ofAddress address ≠ .io)
    (value : Half) {content : Nat → Byte} (low : content 0 = value.low)
    (high : content 1 = value.high) :
    bus.write16 address value = bus.storeAll (unit .half address content) := by
  have places : unit .half address content =
      [(address.alignHalf, value.low), (address.alignHalf ||| 1, value.high)] := by
    rw [← Width.place_half_one, ← Width.place_half, ← low, ← high]
    rfl
  rw [write16_eq_store8 _ outside, places]
  rfl

/-- Outside of the I/O registers the word store is four byte stores, from the lowest byte to the
highest. -/
theorem write32_eq_storeAll {address : Word} (outside : Region.ofAddress address ≠ .io)
    (value : Word) :
    bus.write32 address value =
      bus.storeAll (unit .word address fun i => value.extractLsb' (8 * i) 8) := by
  have lane (i : Word) (inWord : i.toNat < 4) := Width.place_word address inWord
  rw [write32_eq_store8 _ outside, ← lane 0 (by decide), ← lane 1 (by decide),
    ← lane 2 (by decide), ← lane 3 (by decide)]
  rfl

/-- Only memories that programs can write keep what is written. -/
theorem storeAll_unit_of_not_ram (fixed : (Region.ofAddress address).isRam = false)
    (content : Nat → Byte) : bus.storeAll (unit width address content) = bus := by
  refine storeAll_of_not_ram bus ?_
  intro cell member
  obtain ⟨i, inside, rfl⟩ := (mem_unit width address).mp member
  rw [width.ofAddress_place address inside]
  exact fixed

/-- A halfword or a word is stored as it is wherever there is memory. The narrow video memory treats
bytes alone in a special way. -/
theorem written_of_wide {width : Width} (wide : width ≠ .byte) (value : BitVec width.bits) :
    written width address value =
      if (Region.ofAddress address).isRam then
        unit width address fun i => value.extractLsb' (8 * i) 8
      else [] := by
  unfold written
  cases width with
  | byte => exact absurd rfl wide
  | half | word => cases Region.ofAddress address <;> rfl

variable {address} in
/-- A byte store does what the specification says: it stores one byte in work memory, both bytes of
a halfword in palette and background memory, and none in object memory. -/
theorem write8_eq_storeAll (outside : Region.ofAddress address ≠ .io) (value : Byte) :
    bus.write8 address value = bus.storeAll (written .byte address value) := by
  have own : bus.store8 address value =
      bus.storeAll (unit .byte address fun i => value.extractLsb' (8 * i) 8) := by
    have whole : value.extractLsb' 0 8 = value := BitVec.extractLsb'_eq_self
    change _ = bus.store8 (Width.byte.place address 0) (value.extractLsb' 0 8)
    rw [Width.place_byte, whole]
  have twice : bus.write16 address (Half.ofBytes value value) =
      bus.storeAll (unit .half address fun _ => value.setWidth 8) :=
    bus.write16_eq_storeAll outside _ (by simp) (by simp)
  unfold write8 written
  cases region : Region.ofAddress address with
  | io => exact absurd region outside
  | palette | vram => exact twice
  | oam => rfl
  | ewram | iwram | sram => exact own
  | bios | gamePak | openBus => exact bus.store8_of_not_ram (by rw [region]; rfl) value

/-- Outside the peripherals a write of any width stores the bytes that are specified for it and does
nothing else. -/
theorem write_eq_storeAll (outside : Region.ofAddress address ≠ .io)
    (value : BitVec width.bits) :
    bus.write width address value = bus.storeAll (written width address value) := by
  have wider (wide : width ≠ .byte)
      (same : bus.write width address value =
        bus.storeAll (unit width address fun i => value.extractLsb' (8 * i) 8)) :
      bus.write width address value = bus.storeAll (written width address value) := by
    rw [same, written_of_wide _ wide]
    split
    · rfl
    · rename_i fixed
      exact bus.storeAll_unit_of_not_ram width address (Bool.eq_false_iff.mpr fixed) _
  cases width with
  | byte => exact bus.write8_eq_storeAll outside value
  | half => exact wider (by decide) (bus.write16_eq_storeAll outside value rfl rfl)
  | word => exact wider (by decide) (bus.write32_eq_storeAll outside value)

/-- A halfword store to an I/O register changes no memory. -/
theorem write16_of_io {address : Word} (peripheral : Region.ofAddress address = .io)
    (value : Half) : ∃ io, bus.write16 address value = { bus with io } := by
  unfold write16
  dsimp only
  rw [Region.ofAddress_alignHalf, if_pos peripheral]
  exact ⟨_, rfl⟩

variable {address} in
/-- A write to the peripherals changes nothing else: all memory and the boot ROM are as before. -/
theorem write_of_io (peripheral : Region.ofAddress address = .io) (value : BitVec width.bits) :
    bus.write width address value = { bus with io := (bus.write width address value).io } := by
  have only : ∃ io, bus.write width address value = { bus with io } := by
    cases width with
    | byte =>
        refine ⟨bus.io.writeByte (ioOffset address) value, ?_⟩
        simp only [write, write8, peripheral]
    | half => exact bus.write16_of_io peripheral value
    | word =>
        have first : Region.ofAddress address.alignWord = .io := by
          rw [Region.ofAddress_alignWord, peripheral]
        have second : Region.ofAddress (address.alignWord ||| 2) = .io := by
          rw [Region.ofAddress_lane address (by decide), first]
        obtain ⟨middle, low⟩ := bus.write16_of_io first (Word.lowHalf value)
        obtain ⟨last, high⟩ := write16_of_io { bus with io := middle } second
          (Word.highHalf value)
        refine ⟨last, ?_⟩
        change (bus.write16 _ _).write16 _ _ = _
        rw [low, high]
  obtain ⟨io, same⟩ := only
  rw [same]

/-- The specification has no memory cell for an I/O register. -/
theorem written_of_io {address : Word} (peripheral : Region.ofAddress address = .io)
    (value : BitVec width.bits) : written width address value = [] := by
  unfold written
  rw [peripheral]

/-! ## Reads -/

/-- A read puts the bytes of its unit together, the lowest first. One case for each width. -/
theorem toNat_read :
    (bus.read width address).toNat =
      ((List.range width.bytes).map fun i =>
        256 ^ i * (bus.read8 (width.place address i)).toNat).sum := by
  cases width with
  | byte =>
      change _ = 256 ^ 0 * (bus.read8 (Width.byte.place address 0)).toNat + 0
      rw [Width.place_byte, Nat.pow_zero, Nat.one_mul]
      rfl
  | half =>
      change _ = 256 ^ 0 * (bus.read8 (Width.half.place address 0)).toNat +
        (256 ^ 1 * (bus.read8 (Width.half.place address 1)).toNat + 0)
      rw [Width.place_half_one, Width.place_half]
      refine (toNat_append_eq_add _ _).trans ?_
      rw [Nat.shiftLeft_eq]
      omega
  | word =>
      have lane (i : Word) (inWord : i.toNat < 4) := Width.place_word address inWord
      change _ = 256 ^ 0 * (bus.read8 (Width.word.place address (0 : Word).toNat)).toNat +
        (256 ^ 1 * (bus.read8 (Width.word.place address (1 : Word).toNat)).toNat +
          (256 ^ 2 * (bus.read8 (Width.word.place address (2 : Word).toNat)).toNat +
            (256 ^ 3 * (bus.read8 (Width.word.place address (3 : Word).toNat)).toNat + 0)))
      rw [lane 0 (by decide), lane 1 (by decide), lane 2 (by decide), lane 3 (by decide)]
      refine (toNat_append_eq_add _ _).trans ?_
      rw [toNat_append_eq_add, toNat_append_eq_add]
      simp only [Nat.shiftLeft_eq]
      have first : address.alignWord ||| 0 = address.alignWord := BitVec.or_zero
      rw [first]
      omega

/-- The law of reads and writes of every width, over all addresses and their mirrors: outside the
peripherals an address shows the byte a write stored where the two stand for one byte of storage,
and what it showed before elsewhere; memory and peripherals do not disturb each other; and a read
shows the bytes of its aligned unit. -/
theorem read_after_write (value : BitVec width.bits) :
    (∀ other, Region.ofAddress other ≠ .io →
      (∀ cell ∈ written width address value, SameCell other cell.1 →
        (bus.write width address value).read8 other = cell.2) ∧
      ((∀ cell ∈ written width address value, ¬ SameCell other cell.1) →
        (bus.write width address value).read8 other = bus.read8 other)) ∧
    (Region.ofAddress address ≠ .io → (bus.write width address value).io = bus.io) ∧
    (Region.ofAddress address = .io →
      bus.write width address value = { bus with io := (bus.write width address value).io }) ∧
    (∀ (readWidth : Width) (other : Word),
      (bus.read readWidth other).toNat =
        ((List.range readWidth.bytes).map fun i =>
          256 ^ i * (bus.read8 (readWidth.place other i)).toNat).sum) := by
  refine ⟨fun other elsewhere => ⟨?hit, ?kept⟩, ?memory,
    fun peripheral => bus.write_of_io width peripheral value,
    fun readWidth other => bus.toNat_read readWidth other⟩
  case memory =>
    intro outside
    rw [write_eq_storeAll _ _ _ outside, io_storeAll]
  case hit =>
    intro cell member same
    by_cases peripheral : Region.ofAddress address = .io
    · rw [written_of_io _ peripheral] at member
      cases member
    · rw [write_eq_storeAll _ _ _ peripheral]
      exact bus.read8_storeAll_of_mem (fun _ => isRam_of_mem_written width address)
        (pairwise_written width address value) member same
  case kept =>
    intro apart
    by_cases peripheral : Region.ofAddress address = .io
    · rw [write_of_io _ _ peripheral, read8_withIo _ _ elsewhere]
    · rw [write_eq_storeAll _ _ _ peripheral]
      exact bus.read8_storeAll_of_apart (fun _ => isRam_of_mem_written width address) apart

end Bus

end Handheld
