import Handheld.Memory.Region

/-!
# The windows of the memory map

The regions lie in windows of addresses that do not meet (`Region.contains_unique`), so the region
of an address is the one whose window it is in (`Region.ofAddress_eq_iff`).
-/

namespace Handheld.Region

/-- Whether a number is an address of a region. -/
def Contains (n : Nat) : Region → Prop
  | bios => n < 0x4000
  | ewram => 0x2000000 ≤ n ∧ n < 0x3000000
  | iwram => 0x3000000 ≤ n ∧ n < 0x4000000
  | io => 0x4000000 ≤ n ∧ n < 0x4000400
  | palette => 0x5000000 ≤ n ∧ n < 0x6000000
  | vram => 0x6000000 ≤ n ∧ n < 0x7000000
  | oam => 0x7000000 ≤ n ∧ n < 0x8000000
  | gamePak => 0x8000000 ≤ n ∧ n < 0xE000000
  | sram => 0xE000000 ≤ n ∧ n < 0x10000000
  | openBus => (0x4000 ≤ n ∧ n < 0x2000000) ∨ (0x4000400 ≤ n ∧ n < 0x5000000) ∨ 0x10000000 ≤ n

theorem contains_ofAddress (address : Word) : Contains address.toNat (ofAddress address) := by
  have within (bound : Word) : address ≤ bound ↔ address.toNat ≤ bound.toNat := BitVec.le_def
  unfold ofAddress
  repeat' (apply iteInduction (motive := Contains address.toNat) <;> intro _)
  all_goals
    simp only [within, BitVec.toNat_ofNat, Contains] at *
    omega

/-- The regions are apart. -/
theorem contains_unique {n : Nat} {a b : Region} (first : Contains n a) (second : Contains n b) :
    a = b := by
  cases a <;> cases b <;> first | rfl | (simp only [Contains] at first second; omega)

theorem ofAddress_eq_iff (address : Word) (region : Region) :
    ofAddress address = region ↔ Contains address.toNat region := by
  constructor
  · rintro rfl
    exact contains_ofAddress address
  · exact contains_unique (contains_ofAddress address)

end Handheld.Region
