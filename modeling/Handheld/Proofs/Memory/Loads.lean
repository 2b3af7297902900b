import Handheld.Proofs.Cpu.Shifter
import Handheld.Proofs.Memory.WorkRam

/-!
# Loads, byte by byte

A load of a word from an address that is not aligned to it takes the bytes of its aligned word from
the addressed one on, around the end of the word. A load of a halfword from an odd address rotates
its aligned halfword within a word of 32 bits, and with its sign only the addressed byte is loaded.
`Bus.LoadsSelected` says all of this in single bytes, and `Bus.loads_selected` that it holds on
every bus at every address. Whoever inspects an address is shown the word or the halfword that a
load without a sign yields there (`Bus.peekWord_eq_loadWord`, `Bus.peekHalf_eq_loadHalf`).
-/

namespace Handheld

namespace Word

/-- The bytes of a word that is put together from four are these four, the first one lowest. -/
theorem extract_ofBytes (b0 b1 b2 b3 : Byte) :
    (ofBytes b0 b1 b2 b3).extractLsb' 0 8 = b0 ∧ (ofBytes b0 b1 b2 b3).extractLsb' 8 8 = b1 ∧
      (ofBytes b0 b1 b2 b3).extractLsb' 16 8 = b2 ∧
      (ofBytes b0 b1 b2 b3).extractLsb' 24 8 = b3 := by
  refine ⟨?_, ?_, ?_, ?_⟩ <;> ext i bound <;>
    simp only [ofBytes, BitVec.getElem_extractLsb', BitVec.getLsbD_append] <;> grind

/-- A rotation by whole bytes moves the bytes around the word: each place shows the byte that many
places further on. -/
theorem extract_rotateRight (word : Word) (places : Nat) {k : Nat} (inWord : k < 4) :
    (word.rotateRight (8 * places)).extractLsb' (8 * k) 8 =
      word.extractLsb' (8 * ((places + k) % 4)) 8 := by
  ext i bound
  have inside : 8 * k + i < 32 := by omega
  have place : (8 * places + (8 * k + i)) % 32 = 8 * ((places + k) % 4) + i := by omega
  rw [BitVec.getElem_extractLsb', BitVec.getElem_extractLsb', getLsbD_rotateRight _ _ inside, place]

/-- Rotating a word by a byte moves each byte down by one, and the lowest one to the top, where a
misaligned halfword has its second byte. -/
theorem ofBytes_rotateRight (b0 b1 b2 b3 : Byte) :
    (ofBytes b0 b1 b2 b3).rotateRight 8 = ofBytes b1 b2 b3 b0 := by
  obtain ⟨first, second, third, fourth⟩ := extract_ofBytes b0 b1 b2 b3
  generalize ofBytes b0 b1 b2 b3 = word at first second third fourth
  have turned0 : (word.rotateRight 8).extractLsb' 0 8 = b1 :=
    (word.extract_rotateRight 1 (k := 0) (by decide)).trans second
  have turned1 : (word.rotateRight 8).extractLsb' 8 8 = b2 :=
    (word.extract_rotateRight 1 (k := 1) (by decide)).trans third
  have turned2 : (word.rotateRight 8).extractLsb' 16 8 = b3 :=
    (word.extract_rotateRight 1 (k := 2) (by decide)).trans fourth
  have turned3 : (word.rotateRight 8).extractLsb' 24 8 = b0 :=
    (word.extract_rotateRight 1 (k := 3) (by decide)).trans first
  rw [← Word.ofBytes_extract (word.rotateRight 8), turned0, turned1, turned2, turned3]

/-- The lowest bit of an address tells an odd one from an even one. -/
theorem toNat_extract_one (address : Word) :
    (address.extractLsb' 0 1).toNat = address.toNat % 2 := by
  rw [BitVec.extractLsb'_toNat]
  rfl

theorem getLsbD_zero (address : Word) : address.getLsbD 0 = decide (address.toNat % 2 = 1) :=
  Nat.testBit_zero _

/-- The two lowest bits of an address are its place in the word. -/
theorem toNat_extract_two (address : Word) :
    (address.extractLsb' 0 2).toNat = address.toNat % 4 := by
  rw [BitVec.extractLsb'_toNat]
  rfl

/-- The bytes of an aligned word follow each other. -/
theorem alignWord_or (address : Word) {lane : Word} (inWord : lane.toNat < 4) :
    address.alignWord ||| lane = address.alignWord + lane := by
  have inRange := address.alignWord.isLt
  have position := address.toNat_alignWord
  rw [← BitVec.toNat_inj, toNat_alignWord_or _ inWord, BitVec.toNat_add, Nat.mod_eq_of_lt]
  omega

/-- The bytes of an aligned halfword follow each other. -/
theorem alignHalf_or_one (address : Word) : address.alignHalf ||| 1 = address.alignHalf + 1 := by
  have inRange := address.alignHalf.isLt
  have position := address.toNat_alignHalf
  have one : (1 : Word).toNat = 1 := rfl
  rw [← BitVec.toNat_inj, toNat_alignHalf_or _ (by decide), BitVec.toNat_add, Nat.mod_eq_of_lt]
  omega

end Word

/-- A halfword as a word. -/
theorem Half.setWidth_ofBytes (low high : Byte) :
    (ofBytes low high).setWidth 32 = Word.ofBytes low high 0 0 := by
  ext i bound
  simp only [ofBytes, Word.ofBytes, BitVec.getElem_setWidth, BitVec.getLsbD_append]
  grind

namespace Bus

variable (bus : Bus) (address : Word)

/-- The halfword that starts at an address. -/
def halfAt : Half := Half.ofBytes (bus.read8 address) (bus.read8 (address + 1))

/-- What the loads from an address yield, in terms of single bytes. -/
structure LoadsSelected : Prop where
  word : ∀ k < 4, (bus.loadWord address).extractLsb' (8 * k) 8 =
    bus.read8 (address.alignWord + BitVec.ofNat 32 ((address.toNat + k) % 4))
  half_low : (bus.loadHalf address).extractLsb' 0 8 = bus.read8 address
  half_even : address.toNat % 2 = 0 → bus.loadHalf address = (bus.halfAt address).setWidth 32
  half_odd : address.toNat % 2 = 1 →
    bus.loadHalf address = Word.ofBytes (bus.read8 address) 0 0 (bus.read8 (address - 1))
  signedHalf_even : address.toNat % 2 = 0 →
    bus.loadSignedHalf address = (bus.halfAt address).signExtend 32
  signedHalf_odd : address.toNat % 2 = 1 →
    bus.loadSignedHalf address = (bus.read8 address).signExtend 32

/-! ## Words -/

/-- Each byte of the word that holds an address is the byte at its own place after the aligned
address. -/
theorem extract_read32 {k : Nat} (inWord : k < 4) :
    (bus.read32 address).extractLsb' (8 * k) 8 =
      bus.read8 (address.alignWord + BitVec.ofNat 32 k) := by
  have first : address.alignWord = address.alignWord + 0 := (BitVec.add_zero _).symm
  have bytes : bus.read32 address =
      Word.ofBytes (bus.read8 (address.alignWord + 0)) (bus.read8 (address.alignWord + 1))
        (bus.read8 (address.alignWord + 2)) (bus.read8 (address.alignWord + 3)) := by
    rw [read32, address.alignWord_or (by decide), address.alignWord_or (by decide),
      address.alignWord_or (by decide), ← first]
  obtain ⟨byte0, byte1, byte2, byte3⟩ := Word.extract_ofBytes (bus.read8 (address.alignWord + 0))
    (bus.read8 (address.alignWord + 1)) (bus.read8 (address.alignWord + 2))
    (bus.read8 (address.alignWord + 3))
  have lanes : k = 0 ∨ k = 1 ∨ k = 2 ∨ k = 3 := by omega
  rw [bytes]
  rcases lanes with rfl | rfl | rfl | rfl
  · exact byte0
  · exact byte1
  · exact byte2
  · exact byte3

/-- Byte `k` of a loaded word is the byte `k` places further in the aligned word, with the places
counted around. That is the rotation of a misaligned load. -/
theorem extract_loadWord {k : Nat} (inWord : k < 4) :
    (bus.loadWord address).extractLsb' (8 * k) 8 =
      bus.read8 (address.alignWord + BitVec.ofNat 32 ((address.toNat + k) % 4)) := by
  have place : (address.toNat % 4 + k) % 4 = (address.toNat + k) % 4 := by omega
  rw [loadWord, Word.toNat_extract_two, Word.extract_rotateRight _ _ inWord,
    extract_read32 _ _ (Nat.mod_lt _ (by decide)), place]

/-- A load from an aligned address is not rotated. -/
theorem loadWord_of_aligned {address : Word} (aligned : address.toNat % 4 = 0) :
    bus.loadWord address = bus.read32 address := by
  rw [loadWord, Word.toNat_extract_two, aligned]
  exact ShiftKind.ror.move_zero _

/-! ## Halfwords -/

variable {bus address}

theorem read16_of_even (even : address.toNat % 2 = 0) :
    bus.read16 address = bus.halfAt address := by
  have next : address ||| 1 = address + 1 := by
    have whole := address.alignHalf_or_one
    rwa [(address.alignHalf_eq_self_iff).mpr even] at whole
  rw [read16, (address.alignHalf_eq_self_iff).mpr even, next, halfAt]

/-- A halfword that is read at an odd address is the one that it lies in, with the byte at the
address as its upper byte. -/
theorem read16_of_odd (odd : address.toNat % 2 = 1) :
    bus.read16 address = Half.ofBytes (bus.read8 (address - 1)) (bus.read8 address) := by
  have base : address.alignHalf = address - 1 := by
    rw [← BitVec.toNat_inj, Word.toNat_alignHalf, BitVec.toNat_sub_of_le ?_]
    · change _ = address.toNat - 1
      omega
    · change 1 ≤ address.toNat
      omega
  have upper : address.alignHalf ||| 1 = address := by
    rw [Word.alignHalf_or_one, base, BitVec.sub_add_cancel]
  rw [read16, upper, base]

/-- An aligned halfword is extended with zeros. -/
theorem loadHalf_of_even (even : address.toNat % 2 = 0) :
    bus.loadHalf address = (bus.halfAt address).setWidth 32 := by
  rw [loadHalf, Word.toNat_extract_one, even, read16_of_even even]
  exact ShiftKind.ror.move_zero _

/-- A misaligned halfword is rotated as a word: its byte at the address comes to the bottom and the
other one to the top. -/
theorem loadHalf_of_odd (odd : address.toNat % 2 = 1) :
    bus.loadHalf address = Word.ofBytes (bus.read8 address) 0 0 (bus.read8 (address - 1)) := by
  rw [loadHalf, Word.toNat_extract_one, odd, read16_of_odd odd, Half.setWidth_ofBytes]
  exact Word.ofBytes_rotateRight _ _ _ _

/-- The lowest byte of a loaded halfword is the byte at the address, misaligned or not. -/
theorem extract_loadHalf : (bus.loadHalf address).extractLsb' 0 8 = bus.read8 address := by
  rcases Nat.mod_two_eq_zero_or_one address.toNat with even | odd
  · rw [loadHalf_of_even even, halfAt, Half.setWidth_ofBytes]
    exact (Word.extract_ofBytes _ _ _ _).1
  · rw [loadHalf_of_odd odd]
    exact (Word.extract_ofBytes _ _ _ _).1

/-- An aligned signed halfword is extended with its sign. -/
theorem loadSignedHalf_of_even (even : address.toNat % 2 = 0) :
    bus.loadSignedHalf address = (bus.halfAt address).signExtend 32 := by
  have low : address.getLsbD 0 = false := by
    rw [Word.getLsbD_zero, even]
    rfl
  rw [loadSignedHalf, low, read16_of_even even]
  rfl

/-- A misaligned signed halfword is the signed byte at the address, as this processor loads it. -/
theorem loadSignedHalf_of_odd (odd : address.toNat % 2 = 1) :
    bus.loadSignedHalf address = (bus.read8 address).signExtend 32 := by
  have low : address.getLsbD 0 = true := by
    rw [Word.getLsbD_zero, odd]
    rfl
  exact if_pos low

/-! ## Inspection -/

/-- An inspection counts the places in the address itself, a load in the field of its lowest bits.
Either way the addressed byte comes to the bottom. -/
theorem peekWord_eq_loadWord (bus : Bus) (address : Word) :
    bus.peekWord address = bus.loadWord address := by
  have lane : (address &&& 3).toNat = address.toNat % 4 :=
    (BitVec.toNat_and _ _).trans (Nat.and_two_pow_sub_one_eq_mod _ 2)
  have places : (8 * (address &&& 3)).toNat = 8 * (address.toNat % 4) := by
    rw [BitVec.toNat_mul, lane]
    change 8 * (address.toNat % 4) % 2 ^ 32 = _
    omega
  rw [peekWord, loadWord, places, Word.toNat_extract_two]

/-- Inspecting a halfword shows what `LDRH` would load. Whether the address is odd is told by a mask
in one and by a bit in the other. -/
theorem peekHalf_eq_loadHalf (bus : Bus) (address : Word) :
    bus.peekHalf address = bus.loadHalf address := by
  have lane : (address &&& 1).toNat = address.toNat % 2 :=
    (BitVec.toNat_and _ _).trans (Nat.and_two_pow_sub_one_eq_mod _ 1)
  have places : (8 * (address &&& 1)).toNat = 8 * (address.toNat % 2) := by
    rw [BitVec.toNat_mul, lane]
    change 8 * (address.toNat % 2) % 2 ^ 32 = _
    omega
  rw [peekHalf, loadHalf, places, Word.toNat_extract_one]

/-- On every bus, a load from any address selects its bytes as it should. -/
theorem loads_selected (bus : Bus) (address : Word) : bus.LoadsSelected address where
  word _ inWord := bus.extract_loadWord address inWord
  half_low := extract_loadHalf
  half_even := loadHalf_of_even
  half_odd := loadHalf_of_odd
  signedHalf_even := loadSignedHalf_of_even
  signedHalf_odd := loadSignedHalf_of_odd

end Bus

end Handheld
