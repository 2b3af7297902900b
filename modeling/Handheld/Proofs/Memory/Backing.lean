import Handheld.Proofs.Memory.Cell

/-!
# What is behind an address

Every region but the open bus has storage of a fixed size, except that the game pak has as much as
its image fills, and an address of the region is folded to a position inside it
(`Region.offset?_lt_size`, `Bus.isSome_stored?`). A read gives the byte that is stored there
(`Bus.read8_eq_backing`). Only addresses of the open bus and addresses past the image in the game
pak have no such byte (`Bus.backing?_eq_none_iff`), and only there does a read fall back to
`openBusValue`.
-/

namespace Handheld

/-- An address of a region with storage stands for a position inside it. -/
theorem Region.offset?_lt_size {region : Region} (stored : region ≠ openBus) (address : Word) :
    ∃ offset, region.offset? address = some offset ∧ offset < region.size :=
  ⟨fold address.toNat region, offset?_eq_fold stored address, fold_lt_size stored _⟩

/-- The image that a Game Pak keeps is as long as its capacity allows, and within the capacity it is
the image itself. -/
theorem getElem?_take_gamePakCapacity (image : Array Byte) {i : Nat}
    (inside : i < gamePakCapacity) :
    (image.take gamePakCapacity)[i]? = image[i]? := by
  rw [Array.take_eq_extract, Array.getElem?_extract, Nat.zero_add, Nat.sub_zero]
  split
  · rfl
  · exact (Array.getElem?_eq_none (by omega)).symm

namespace Bus

variable (bus : Bus)

/-- The stored byte that an address stands for, if there is one. -/
def backing? (address : Word) : Option Byte :=
  ((Region.ofAddress address).offset? address).bind (bus.stored? (Region.ofAddress address))

/-- The storage of every region but the game pak has the size of the region. -/
theorem isSome_stored? {region : Region} (fixed : region ≠ .gamePak) (offset : Nat) :
    (bus.stored? region offset).isSome = true ↔ offset < region.size := by
  cases region with
  | gamePak => exact absurd rfl fixed
  | openBus => exact iff_of_false Bool.false_ne_true (Nat.not_lt_zero offset)
  | bios | ewram | iwram | io | palette | vram | oam | sram =>
      exact Eq.to_iff (isSome_getElem? _ offset)

theorem backing?_gamePak {address : Word} (region : Region.ofAddress address = .gamePak) :
    bus.backing? address = bus.gamePak[address.toNat % 0x2000000]? := by
  rw [backing?, region, Region.offset?_eq_fold (by decide)]
  rfl

/-- There is nothing behind the open bus and past the image in the game pak, and a byte behind every
other address. -/
theorem backing?_eq_none_iff (address : Word) :
    bus.backing? address = none ↔
      Region.ofAddress address = .openBus ∨
        Region.ofAddress address = .gamePak ∧ bus.gamePak.size ≤ address.toNat % 0x2000000 := by
  by_cases unmapped : Region.ofAddress address = .openBus
  · refine iff_of_true ?_ (.inl unmapped)
    rw [backing?, unmapped]
    rfl
  by_cases gamePak : Region.ofAddress address = .gamePak
  · rw [bus.backing?_gamePak gamePak, Array.getElem?_eq_none_iff]
    simp only [gamePak, reduceCtorEq, false_or, true_and]
  · obtain ⟨offset, folded, inside⟩ := Region.offset?_lt_size unmapped address
    have present := (bus.isSome_stored? gamePak offset).mpr inside
    rw [backing?, folded, Option.bind_some, ← Option.not_isSome_iff_eq_none]
    simp only [present, unmapped, gamePak, not_true_eq_false, false_and, or_false]

/-- A read gives the byte behind the address, and the value of open bus where there is none. The
peripherals decide what programs see of theirs. -/
theorem read8_eq_backing (address : Word) :
    bus.read8 address =
      if Region.ofAddress address = .io then bus.io.cpuReadByte (ioOffset address)
      else (bus.backing? address).getD openBusValue := by
  unfold read8 backing?
  dsimp only
  cases (Region.ofAddress address).offset? address <;> rfl

end Bus

end Handheld
