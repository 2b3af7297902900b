import Handheld.Cpu.Step
import Handheld.Proofs.Memory.WorkRam

/-!
# Executing the boot ROM

The ROM holds the instructions of `BootRom.program` and zeros after them (`BootRom.toList_image`).
A word fetched from it is the instruction at its place (`Bus.read32_bios`,
`Machine.fetchWord_bios`).
-/

namespace Handheld

namespace BootRom

theorem byteAt_lane (first lane : Nat) (aligned : first % 4 = 0) (inWord : lane < 4) :
    byteAt (first + lane) = (program[first / 4]?.getD 0).extractLsb' (8 * lane) 8 := by
  have place : (first + lane) / 4 = first / 4 := by omega
  have within : (first + lane) % 4 = lane := by omega
  rw [byteAt, place, within]

theorem length_flatMap_bytes (words : List Word) :
    (words.flatMap Word.bytes).length = 4 * words.length := by
  have four (word : Word) : word.bytes.length = 4 := rfl
  simp only [List.length_flatMap, four, List.map_const', List.sum_replicate_nat, Nat.mul_comm]

/-- The bytes of a list of words follow each other, four for each word with the lowest first. By
induction on the list. -/
theorem getElem?_flatMap_bytes (words : List Word) (i : Nat) :
    (words.flatMap Word.bytes)[i]? =
      words[i / 4]?.map fun word => word.extractLsb' (8 * (i % 4)) 8 := by
  induction words generalizing i with
  | nil => rfl
  | cons first rest ih =>
      match i with
      | 0 | 1 | 2 | 3 => rfl
      | i + 4 =>
          have block : (i + 4) / 4 = i / 4 + 1 := by omega
          have lane : (i + 4) % 4 = i % 4 := by omega
          rw [block, lane]
          exact ih i

theorem getElem?_toList_image {i : Nat} (inside : i < 0x4000) :
    image.toList[i]? = some (byteAt i) := by
  rw [Vector.getElem?_toList, Vector.getElem?_eq_getElem inside, image, Vector.getElem_ofFn]

/-- The ROM holds the boot program and zeros after it, as far as it goes. -/
theorem toList_image :
    image.toList =
      program.flatMap Word.bytes ++ List.replicate (0x4000 - 4 * program.length) 0 := by
  have fits : 4 * program.length ≤ 0x4000 := by decide
  apply List.ext_getElem?
  intro i
  rw [List.getElem?_append, length_flatMap_bytes, getElem?_flatMap_bytes, List.getElem?_replicate]
  by_cases inProgram : i < 4 * program.length
  · have bound : i / 4 < program.length := by omega
    rw [if_pos inProgram, getElem?_toList_image (Nat.lt_of_lt_of_le inProgram fits), byteAt,
      List.getElem?_eq_getElem bound]
    rfl
  rw [if_neg inProgram]
  by_cases inside : i < 0x4000
  · have past : program.length ≤ i / 4 := by omega
    rw [if_pos (by omega), getElem?_toList_image inside, byteAt, List.getElem?_eq_none past,
      Option.getD_none]
    exact congrArg some BitVec.extractLsb'_zero
  · have outside : image.toList.length ≤ i := by
      rw [Vector.length_toList]
      exact Nat.not_lt.mp inside
    rw [if_neg (by omega), List.getElem?_eq_none outside]

end BootRom

namespace Bus

/-- A word is read where its bytes are: if each byte at an aligned address is that of the word, the
word is read there. -/
theorem read32_of_lanes {bus : Bus} {address : Word} (aligned : address.toNat % 4 = 0) {word : Word}
    (lanes : ∀ lane : Word, lane.toNat < 4 →
      bus.read8 (address ||| lane) = word.extractLsb' (8 * lane.toNat) 8) :
    bus.read32 address = word := by
  have base : address.alignWord = address := (Word.alignWord_eq_self_iff address).mpr aligned
  have first := lanes 0 (by decide)
  rw [show address ||| 0 = address from BitVec.or_zero] at first
  unfold read32
  dsimp only
  rw [base, first, lanes 1 (by decide), lanes 2 (by decide), lanes 3 (by decide)]
  exact Word.ofBytes_extract _

theorem read8_bios {bus : Bus} (boot : bus.bios = BootRom.image) {address : Word}
    (inside : address.toNat < 0x4000) : bus.read8 address = BootRom.byteAt address.toNat := by
  have region := (Region.ofAddress_eq_iff address .bios).mpr inside
  have offset : (address &&& 0x3FFF).toNat = address.toNat :=
    (Region.toNat_and_mask address 14 (by decide)).trans (Nat.mod_eq_of_lt inside)
  simp only [read8, region, reduceCtorEq, ↓reduceIte, Region.offset?, stored?, offset, boot,
    BootRom.image]
  rw [Vector.getElem?_eq_getElem inside, Vector.getElem_ofFn, Option.getD_some]

/-- A word of the boot ROM is the instruction of the boot program at its place, and zero after the
end of the program. -/
theorem read32_bios {bus : Bus} (boot : bus.bios = BootRom.image) {address : Word}
    (inside : address.toNat < 0x4000) (aligned : address.toNat % 4 = 0) :
    bus.read32 address = BootRom.program[address.toNat / 4]?.getD 0 := by
  refine read32_of_lanes aligned fun lane inWord => ?_
  have place := address.toNat_alignWord_or inWord
  rw [(Word.alignWord_eq_self_iff address).mpr aligned] at place
  rw [read8_bios boot (by omega), place, BootRom.byteAt_lane _ _ aligned inWord]

end Bus

/-- The instruction that a processor in ARM state fetches from the boot ROM is that of the boot
program at its place. -/
theorem Machine.fetchWord_bios {m : Machine} (boot : m.bus.bios = BootRom.image) {pc : Word}
    (here : m.regs.pc = pc) (inside : pc.toNat < 0x4000) (aligned : pc.toNat % 4 = 0) :
    m.fetchWord = BootRom.program[pc.toNat / 4]?.getD 0 := by
  rw [fetchWord, here, (Word.alignWord_eq_self_iff pc).mpr aligned]
  exact Bus.read32_bios boot inside aligned

end Handheld
