import Handheld.Proofs.CheckedArithmetic
import Handheld.Proofs.Video.MapPoint

/-!
# Fixed point

An affine background at a point of the screen, in arithmetic that is refused if a product or a sum
does not fit into 64 bits, and with a place in the map that is refused if a coordinate is negative.
The numbers in the registers are too small for the former (`VideoMemory.small_transform`), and a
point that repeats or lies inside the map is no case of the latter
(`VideoMemory.checkedAffineMapColor_eq`). The backgrounds that are drawn in this way are the last
two, which have a transform each (`VideoMemory.index_of_affine`).
-/

namespace Handheld.VideoMemory

/-- A coordinate of the map, from the reference point and a row of the matrix. -/
def checkedCoordinate (reference first second : Int) (x y : Nat) : Option Int := do
  let across ← signed64? (first * x)
  let start ← signed64? (reference + across)
  let down ← signed64? (second * y)
  let sum ← signed64? (start + down)
  return sum >>> (8 : Nat)

/-- The point of the map that a transform puts at a point of the screen. -/
def Transform.checkedApply (t : Transform) (x y : Nat) : Option (Int × Int) := do
  return (← checkedCoordinate t.refX t.pa t.pb x y, ← checkedCoordinate t.refY t.pc t.pd x y)

/-- The colour of a point of an affine map, which is looked up at the remainders of a point that
repeats, or at the point itself. -/
def checkedAffineMapColor (video : VideoMemory) (info : BackgroundInfo) (x y : Int) :
    Option (Option Half) := do
  let side := info.screenSize.affineSide
  if info.wraparound ∨ 0 ≤ x ∧ x < side ∧ 0 ≤ y ∧ y < side then
    let px ← Int.toNat? (if info.wraparound then x % side else x)
    let py ← Int.toNat? (if info.wraparound then y % side else y)
    let tile := (video.vram8 (info.screenBase + py / 8 * (side / 8) + px / 8)).toNat
    let index := video.tilePixel info.characterBase .colors256 tile (px % 8) (py % 8)
    return if index = 0 then none else some (video.paletteColor index.toNat)
  else return none

/-- An affine background at a point of the screen. -/
def checkedAffineColor (video : VideoMemory) (layer : Layer) (x y : Nat) :
    Option (Option Half) := do
  let (mapX, mapY) ← (video.transform layer.index).checkedApply x y
  video.checkedAffineMapColor layer.info mapX mapY

/-! ## Which backgrounds -/

/-- The layers that are drawn as affine maps are backgrounds 2 and 3, which alone have a matrix. So
their index never runs out of its registers. -/
theorem index_of_affine {video : VideoMemory} {layer : Layer} (visible : layer ∈ video.layers)
    (affine : layer.kind = .affine) : layer.index = 2 ∨ layer.index = 3 := by
  have drawnAsAffine : ∀ (mode : BitVec 3) (index : Fin 4),
      layerKind? mode index = some .affine → index = 2 ∨ index = 3 := by
    decide
  obtain ⟨index, made⟩ := (video.mem_layers layer).mp visible
  obtain ⟨kind, drawn, -, rfl⟩ := (video.layer?_eq_some_iff index layer).mp made
  obtain rfl : kind = .affine := affine
  exact drawnAsAffine video.mode index drawn

/-! ## Points of the plane -/

/-- The size of numbers of 16 bits in the matrix and of 28 bits in the reference point. -/
structure Transform.Small (t : Transform) : Prop where
  pa : t.pa.natAbs ≤ 2 ^ 15
  pb : t.pb.natAbs ≤ 2 ^ 15
  pc : t.pc.natAbs ≤ 2 ^ 15
  pd : t.pd.natAbs ≤ 2 ^ 15
  refX : t.refX.natAbs ≤ 2 ^ 27
  refY : t.refY.natAbs ≤ 2 ^ 27

theorem small_transform (video : VideoMemory) (index : Fin 4) :
    (video.transform index).Small where
  pa := natAbs_toInt_le _
  pb := natAbs_toInt_le _
  pc := natAbs_toInt_le _
  pd := natAbs_toInt_le _
  refX := natAbs_toInt_le _
  refY := natAbs_toInt_le _

variable {x y : Nat} (inRow : x < screenWidth) (inColumn : y < screenHeight)

include inRow inColumn

theorem checkedCoordinate_eq {reference first second : Int} (start : reference.natAbs ≤ 2 ^ 27)
    (across : first.natAbs ≤ 2 ^ 15) (down : second.natAbs ≤ 2 ^ 15) :
    checkedCoordinate reference first second x y =
      some ((reference + first * x + second * y) / 256) := by
  have width : ((x : Int)).natAbs ≤ 240 := Nat.le_of_lt inRow
  have height : ((y : Int)).natAbs ≤ 160 := Nat.le_of_lt inColumn
  have acrossSize := natAbs_mul_le across width
  have downSize := natAbs_mul_le down height
  have startSize : (reference + first * x).natAbs ≤ 2 ^ 27 + 2 ^ 15 * 240 := by omega
  have sumSize : (reference + first * x + second * y).natAbs < 2 ^ 63 := by omega
  have shifted : (reference + first * x + second * y) >>> (8 : Nat) =
      (reference + first * x + second * y) / 256 := Int.shiftRight_eq_div_pow _ 8
  rw [checkedCoordinate, signed64?_of_natAbs_lt (by omega : (first * x).natAbs < 2 ^ 63),
    signed64?_of_natAbs_lt (by omega : (second * y).natAbs < 2 ^ 63)]
  simp only [Option.bind_eq_bind, Option.bind_some]
  rw [signed64?_of_natAbs_lt (by omega : (reference + first * x).natAbs < 2 ^ 63), Option.bind_some,
    signed64?_of_natAbs_lt sumSize, Option.bind_some, shifted]
  rfl

theorem Transform.checkedApply_eq {t : Transform} (small : t.Small) :
    t.checkedApply x y = some (t.apply x y) := by
  rw [checkedApply, checkedCoordinate_eq inRow inColumn small.refX small.pa small.pb,
    checkedCoordinate_eq inRow inColumn small.refY small.pc small.pd]
  rfl

omit inRow inColumn

/-! ## Points of the map -/

/-- Inside the map the remainder of a coordinate is the coordinate, so that both ways to look a
point up find the same place. -/
theorem toNat?_of_repeated_or_inside {side : Nat} (positive : 0 < side) {repeats : Bool}
    (value : Int) (shown : repeats = true ∨ 0 ≤ value ∧ value < side) :
    Int.toNat? (if repeats = true then value % side else value) = some (value % side).toNat := by
  have nonneg : 0 ≤ value % side := Int.emod_nonneg value (by omega)
  have place : (if repeats = true then value % side else value) = value % side := by
    rcases shown with wrapped | ⟨low, high⟩
    · exact if_pos wrapped
    · rw [Int.emod_eq_of_lt low high, ite_self]
  rw [place]
  exact Int.mem_toNat?.mpr (Int.toNat_of_nonneg nonneg).symm

/-- No coordinate of a point that is looked up in a map is negative: it was wrapped around or lay
inside, or there is nothing to look up. -/
theorem checkedAffineMapColor_eq (video : VideoMemory) (info : BackgroundInfo) (x y : Int) :
    video.checkedAffineMapColor info x y = some (video.affineMapColor? info x y) := by
  have positive := info.screenSize.affineSide_pos
  unfold checkedAffineMapColor affineMapColor?
  dsimp only
  split
  · rename_i shown
    have column := toNat?_of_repeated_or_inside positive x
      (shown.imp_right fun inside => ⟨inside.1, inside.2.1⟩)
    have row := toNat?_of_repeated_or_inside positive y
      (shown.imp_right fun inside => inside.2.2)
    rw [column, row]
    rfl
  · rfl

theorem checkedAffineColor_eq (video : VideoMemory) (layer : Layer) (inRow : x < screenWidth)
    (inColumn : y < screenHeight) :
    video.checkedAffineColor layer x y = some (video.affineColor? layer x y) := by
  have small := video.small_transform layer.index
  rw [checkedAffineColor, Transform.checkedApply_eq inRow inColumn small]
  exact video.checkedAffineMapColor_eq _ _ _

end Handheld.VideoMemory
