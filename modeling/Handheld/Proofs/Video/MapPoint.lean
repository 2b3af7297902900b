import Handheld.Proofs.Video.Layers
import Mathlib.Algebra.GroupWithZero.Nat

/-!
# Points of maps

A background that is drawn from a map shows at each point of the screen a point of its map, which
`VideoMemory.mapPoint?` computes from the numbers in the registers: the point is first moved to the
corner of its mosaic block, then scrolled over a text map, or put into the plane of an affine map by
its matrix and reference point. A layer has the colour of that point
(`VideoMemory.visibleColor?_eq`).
-/

namespace Handheld

namespace ScreenSize

/-- No text background is empty. -/
theorem textWidth_pos (size : ScreenSize) : 0 < size.textWidth := by
  cases size <;> decide

theorem textHeight_pos (size : ScreenSize) : 0 < size.textHeight := by
  cases size <;> decide

theorem affineSide_pos (size : ScreenSize) : 0 < size.affineSide := by
  cases size <;> decide

end ScreenSize

namespace VideoMemory

variable (video : VideoMemory)

/-- The number in the register at an offset. -/
def register (offset : Nat) : Nat := (video.io.readHalf (BitVec.ofNat 10 offset)).toNat

/-- A number whose highest of so many bits is its sign. -/
def signed (bits : Nat) (value : Nat) : Int := Int.bmod value (2 ^ bits)

/-- The point itself, or the first point of its block. -/
def sampledPoint (mosaic : Bool) (x y : Nat) : Nat × Nat :=
  if mosaic then
    let width := video.register 0x4C % 16 + 1
    let height := video.register 0x4C / 16 % 16 + 1
    (x / width * width, y / height * height)
  else (x, y)

/-- The point of the map of a text background that is at a point of the screen. -/
def textPoint (index : Fin 4) (size : ScreenSize) (x y : Nat) : Nat × Nat :=
  ((x + video.register (0x10 + 4 * index) % 512) % size.textWidth,
    (y + video.register (0x12 + 4 * index) % 512) % size.textHeight)

/-- The point of the plane of an affine background that is at a point of the screen. -/
def texturePoint (index : Fin 4) (x y : Nat) : Int × Int :=
  let base := 0x20 + 16 * (index.val - 2)
  let parameter (offset : Nat) := signed 16 (video.register (base + offset))
  let reference (offset : Nat) :=
    signed 28 (video.register (base + offset) + 65536 * video.register (base + offset + 2))
  ((reference 8 + parameter 0 * x + parameter 2 * y) / 256,
    (reference 12 + parameter 4 * x + parameter 6 * y) / 256)

/-- The point of a map of so many points a side that shows a point of the plane, if there is one. -/
def planePoint? (side : Nat) (wraparound : Bool) (x y : Int) : Option (Nat × Nat) :=
  if wraparound then some ((x % side).toNat, (y % side).toNat)
  else if 0 ≤ x ∧ x < side ∧ 0 ≤ y ∧ y < side then some (x.toNat, y.toNat)
  else none

/-- The point of its map that a background shows at a point of the screen. -/
def mapPoint? (index : Fin 4) (x y : Nat) : Option (Nat × Nat) :=
  let info := video.background index
  let (x, y) := video.sampledPoint info.mosaic x y
  match layerKind? video.mode index with
  | some .text => some (video.textPoint index info.screenSize x y)
  | some .affine =>
    let (planeX, planeY) := video.texturePoint index x y
    planePoint? info.screenSize.affineSide info.wraparound planeX planeY
  | some .bitmap | none => none

/-! ## Sampling -/

/-- The corner of a mosaic block is the point that is sampled for all of it, and without a mosaic
each point is its own corner. -/
theorem mosaicCorner_eq (x y : Nat) : video.mosaicCorner x y = video.sampledPoint true x y := by
  have corner (n size : Nat) : n - n % size = n / size * size := by
    have split := Nat.div_add_mod n size
    rw [Nat.mul_comm] at split
    omega
  have size : IoOffset.mosaic = BitVec.ofNat 10 0x4C := rfl
  simp only [mosaicCorner, sampledPoint, register, corner, size, BitVec.extractLsb'_toNat,
    Nat.shiftRight_eq_div_pow, Nat.pow_zero, Nat.div_one, Nat.reducePow, ↓reduceIte]

/-- The registers of a background are found by counting from those of the first one, at distances
that stay within the registers. -/
theorem toNat_readHalf_add (base offset : Nat) :
    (video.io.readHalf (BitVec.ofNat 10 base + BitVec.ofNat 10 offset)).toNat =
      video.register (base + offset) := by
  rw [← BitVec.ofNat_add, register]

/-- The colour of a text background is that of its map at the scrolled point, with the scroll
counted around the map. -/
theorem textColor?_eq (layer : Layer) (x y : Nat) :
    video.textColor? layer x y =
      let point := video.textPoint layer.index layer.info.screenSize x y
      video.textMapColor? layer.info layer.info.screenSize.textWidth point.1 point.2 := by
  have first : IoOffset.bg0hofs = BitVec.ofNat 10 0x10 := rfl
  have vertical : 0x10 + (4 * layer.index.val + 2) = 0x12 + 4 * layer.index.val := by omega
  simp only [textColor?, scroll, textPoint, first, BitVec.extractLsb'_toNat, toNat_readHalf_add,
    Nat.shiftRight_zero, Nat.reducePow, Nat.add_zero, vertical]

/-- A register that holds a signed number is read as one. -/
theorem toInt_readHalf (offset : IoOffset) :
    (video.io.readHalf offset).toInt = signed 16 (video.io.readHalf offset).toNat :=
  BitVec.toInt_eq_toNat_bmod _

/-- The four highest bits of a reference point do not matter. -/
theorem toInt_reference (high low : Half) :
    (high.extractLsb' 0 12 ++ low).toInt = signed 28 (low.toNat + 65536 * high.toNat) := by
  have value : (high.extractLsb' 0 12 ++ low).toNat =
      (low.toNat + 65536 * high.toNat) % 2 ^ 28 := by
    rw [toNat_append_eq_add, Nat.shiftLeft_eq, BitVec.extractLsb'_toNat]
    have bound := low.isLt
    omega
  rw [BitVec.toInt_eq_toNat_bmod, value, signed, Int.natCast_emod, Int.emod_bmod]

/-- The affine transform of the model computes the point of the texture, with 8 bits of fraction
dropped. -/
theorem transform_apply (index : Fin 4) (x y : Nat) :
    (video.transform index).apply x y = video.texturePoint index x y := by
  have first : IoOffset.bg2pa = BitVec.ofNat 10 0x20 := rfl
  simp only [transform, Transform.apply, texturePoint, first, toInt_readHalf, toInt_reference,
    toNat_readHalf_add, Nat.add_assoc]

/-- Inside the map, the remainders are the point itself, so that one formula gives the point with a
wraparound and without. -/
theorem planePoint?_eq (side : Nat) (wraparound : Bool) (x y : Int) :
    planePoint? side wraparound x y =
      if wraparound = true ∨ 0 ≤ x ∧ x < side ∧ 0 ≤ y ∧ y < side then
        some ((x % side).toNat, (y % side).toNat)
      else none := by
  unfold planePoint?
  cases wraparound with
  | true => rfl
  | false =>
      simp only [Bool.false_eq_true, ↓reduceIte, false_or]
      split
      · rename_i inside
        obtain ⟨leftX, rightX, leftY, rightY⟩ := inside
        rw [Int.emod_eq_of_lt leftX rightX, Int.emod_eq_of_lt leftY rightY]
      · rfl

/-- A coordinate that wraps around lies within the map. -/
theorem toNat_emod_lt {side : Nat} (positive : 0 < side) (x : Int) : (x % side).toNat < side := by
  have low := Int.emod_nonneg x (by omega : (side : Int) ≠ 0)
  have high := Int.emod_lt_of_pos x (by omega : (0 : Int) < side)
  omega

/-- A point that is found on a map lies within it, whether it was wrapped around or lay inside from
the start. -/
theorem planePoint?_lt {side : Nat} (positive : 0 < side) {wraparound : Bool} {x y : Int}
    {point : Nat × Nat} (found : planePoint? side wraparound x y = some point) :
    point.1 < side ∧ point.2 < side := by
  rw [planePoint?_eq] at found
  split at found
  · cases found
    exact ⟨toNat_emod_lt positive x, toNat_emod_lt positive y⟩
  · cases found

/-- A point of the plane has the colour of the point of the map that shows it, and none where the
map shows nothing. -/
theorem affineMapColor?_eq (info : BackgroundInfo) (x y : Int) :
    video.affineMapColor? info x y =
      (planePoint? info.screenSize.affineSide info.wraparound x y).bind fun point =>
        video.affineMapColor? info point.1 point.2 := by
  have positive := info.screenSize.affineSide_pos
  rw [planePoint?_eq]
  by_cases shown : info.wraparound = true ∨
      0 ≤ x ∧ x < info.screenSize.affineSide ∧ 0 ≤ y ∧ y < info.screenSize.affineSide
  · have column := toNat_emod_lt positive x
    have row := toNat_emod_lt positive y
    have inside : 0 ≤ ((x % info.screenSize.affineSide).toNat : Int) ∧
        ((x % info.screenSize.affineSide).toNat : Int) < info.screenSize.affineSide ∧
        0 ≤ ((y % info.screenSize.affineSide).toNat : Int) ∧
        ((y % info.screenSize.affineSide).toNat : Int) < info.screenSize.affineSide := by
      omega
    rw [if_pos shown, Option.bind_some]
    unfold affineMapColor?
    dsimp only
    refine (if_pos shown).trans (Eq.trans ?_ (if_pos (.inr inside)).symm)
    simp only [← Int.natCast_emod, Int.toNat_natCast, Nat.mod_eq_of_lt column,
      Nat.mod_eq_of_lt row]
  · rw [if_neg shown, Option.bind_none, affineMapColor?, if_neg shown]

/-- The colour of a point of the map of a background. -/
def mapColor? (index : Fin 4) (x y : Nat) : Option Half :=
  let info := video.background index
  match layerKind? video.mode index with
  | some .text => video.textMapColor? info info.screenSize.textWidth x y
  | some .affine => video.affineMapColor? info x y
  | some .bitmap | none => none

/-- Bitmaps have modes of their own. -/
theorem layerKind?_ne_bitmap {mode : BitVec 3} (tiled : mode.toNat ≤ 2) {index : Fin 4}
    {kind : LayerKind} (drawn : layerKind? mode index = some kind) : kind ≠ .bitmap := by
  have noBitmap : ∀ (mode : BitVec 3) (index : Fin 4), mode.toNat ≤ 2 →
      layerKind? mode index ≠ some .bitmap := by
    decide
  rintro rfl
  exact noBitmap mode index tiled drawn

/-- What is shown of a background at a pixel is its colour at the sampled point, with the mosaic or
without. -/
theorem visibleColor?_eq_sampled (layer : Layer) (x y : Nat) :
    video.visibleColor? layer x y =
      video.layerColor? layer (video.sampledPoint layer.info.mosaic x y).1
        (video.sampledPoint layer.info.mosaic x y).2 := by
  unfold visibleColor?
  cases layer.info.mosaic with
  | true =>
      rw [mosaicCorner_eq]
      rfl
  | false => rfl

/-- A layer shows the colour of a point of its map, the same one that the picture of the whole map
has there. -/
theorem visibleColor?_eq (tiled : video.mode.toNat ≤ 2) {index : Fin 4} {layer : Layer}
    (visible : video.layer? index = some layer) (x y : Nat) :
    video.visibleColor? layer x y =
      (video.mapPoint? index x y).bind fun point => video.mapColor? index point.1 point.2 := by
  obtain ⟨kind, drawn, -, rfl⟩ := (video.layer?_eq_some_iff index layer).mp visible
  rw [visibleColor?_eq_sampled]
  cases kind with
  | text => simp only [mapPoint?, mapColor?, drawn, layerColor?, textColor?_eq, Option.bind_some]
  | affine =>
      simp only [mapPoint?, mapColor?, drawn, layerColor?, affineColor?, transform_apply]
      exact video.affineMapColor?_eq _ _ _
  | bitmap => exact absurd rfl (layerKind?_ne_bitmap tiled drawn)

end VideoMemory

end Handheld
