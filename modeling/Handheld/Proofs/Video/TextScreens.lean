import Handheld.Video.Sample

/-!
# Text maps as tilings

The map of a text background is put together from screens of 32 by 32 tiles, which stand in video
memory one after the other, each in a block of its own. `VideoMemory.screenColor?` reads one screen,
whose entries are in rows; a map shows at each point a point of one of its screens
(`VideoMemory.textMapColor?_eq_screenColor?`). So a map of any width is a tiling of maps of 256 by
256 points (`VideoMemory.textMap_tiled_by_screens`).
-/

namespace Handheld

/-- The number of the screen that a point of a map lies in, counted from the first screen of the map
row by row. -/
def screenNumber (mapWidth x y : Nat) : Nat := x / 256 + y / 256 * (mapWidth / 256)

namespace VideoMemory

variable (video : VideoMemory)

/-- The colour of a point of the tile that an entry of a map selects, in the palette that the entry
selects. The entry may flip the tile. -/
def entryColor? (info : BackgroundInfo) (entry : Half) (x y : Nat) : Option Half :=
  let fineX := if entry.getLsbD 10 then 7 - x else x
  let fineY := if entry.getLsbD 11 then 7 - y else y
  let index :=
    video.tilePixel info.characterBase info.colorMode (entry.extractLsb' 0 10).toNat fineX fineY
  if index = 0 then none
  else
    match info.colorMode with
    | .colors16 =>
      some (video.paletteColor ((entry.extractLsb' 12 4).toNat * 16 + index.toNat))
    | .colors256 => some (video.paletteColor index.toNat)

/-- The entry for a tile of the screen in a block of video memory. -/
def screenEntry (block column row : Nat) : Half :=
  video.vram16 (block * screenBlockBytes + (row * 32 + column) * 2)

/-- The colour of a point of the screen in a block of video memory. -/
def screenColor? (info : BackgroundInfo) (block x y : Nat) : Option Half :=
  video.entryColor? info (video.screenEntry block (x / 8) (y / 8)) (x % 8) (y % 8)

/-- A map shows at each point a point of the screen that it lies in. The screens of a map follow
each other row by row. -/
theorem textMapColor?_eq_screenColor? (info : BackgroundInfo) (mapWidth x y : Nat) :
    video.textMapColor? info mapWidth x y =
      video.screenColor? info (info.screenBaseBlock.toNat + screenNumber mapWidth x y)
        (x % 256) (y % 256) := by
  have block : (info.screenBaseBlock.toNat + screenNumber mapWidth x y) * screenBlockBytes =
      info.screenBase + (x / 8 / 32 + y / 8 / 32 * (mapWidth / 256)) * screenBlockBytes := by
    rw [screenNumber, Nat.add_mul, BackgroundInfo.screenBase, Nat.div_div_eq_div_mul,
      Nat.div_div_eq_div_mul]
  have column : x % 256 / 8 = x / 8 % 32 := by omega
  have row : y % 256 / 8 = y / 8 % 32 := by omega
  have fineX : x % 256 % 8 = x % 8 := by omega
  have fineY : y % 256 % 8 = y % 8 := by omega
  rw [screenColor?, screenEntry, block, column, row, fineX, fineY]
  rfl

/-- A map of 256 points across shows on its first 256 rows one screen, the one at its base. -/
theorem textMapColor?_of_one_screen (info : BackgroundInfo) {x y : Nat} (inRow : x < 256)
    (inColumn : y < 256) :
    video.textMapColor? info 256 x y = video.screenColor? info info.screenBaseBlock.toNat x y := by
  have first : screenNumber 256 x y = 0 := by
    rw [screenNumber, Nat.div_eq_of_lt inRow, Nat.div_eq_of_lt inColumn, Nat.zero_mul]
  rw [textMapColor?_eq_screenColor?, first, Nat.add_zero, Nat.mod_eq_of_lt inRow,
    Nat.mod_eq_of_lt inColumn]

/-- The entries and the tiles of a screen do not depend on where the map of a background begins. -/
theorem screenColor?_withBlock (info : BackgroundInfo) (base : Byte) (block x y : Nat) :
    video.screenColor? { info with screenBaseBlock := base } block x y =
      video.screenColor? info block x y := rfl

/-- A map of any width shows at each point what the screen that the point lies in shows at the
remainders of the point by 256. The screens of a map are in consecutive blocks, row by row: where
the number of the block can be that of a background, the map of 256 by 256 points that begins there
shows the same. -/
theorem textMap_tiled_by_screens (info : BackgroundInfo) (mapWidth x y : Nat) :
    video.textMapColor? info mapWidth x y =
        video.screenColor? info
          (info.screenBaseBlock.toNat + (x / 256 + y / 256 * (mapWidth / 256)))
          (x % 256) (y % 256) ∧
      ∀ block : Byte,
        block.toNat = info.screenBaseBlock.toNat + (x / 256 + y / 256 * (mapWidth / 256)) →
        video.textMapColor? info mapWidth x y =
          video.textMapColor? { info with screenBaseBlock := block } 256 (x % 256) (y % 256) := by
  have shown := video.textMapColor?_eq_screenColor? info mapWidth x y
  refine ⟨shown, ?_⟩
  intro block increased
  have inRow : x % 256 < 256 := Nat.mod_lt _ (by decide)
  have inColumn : y % 256 < 256 := Nat.mod_lt _ (by decide)
  calc video.textMapColor? info mapWidth x y
      = video.screenColor? info block.toNat (x % 256) (y % 256) := by
        rw [shown, increased, screenNumber]
    _ = video.screenColor? { info with screenBaseBlock := block } block.toNat (x % 256)
          (y % 256) := (video.screenColor?_withBlock info block _ _ _).symm
    _ = video.textMapColor? { info with screenBaseBlock := block } 256 (x % 256) (y % 256) :=
        (video.textMapColor?_of_one_screen { info with screenBaseBlock := block } inRow
          inColumn).symm

/-- Video memory with the four screens of a map of 512 by 512 points. The first tile of the last
screen is flipped and has one red pixel. -/
def fourScreens : VideoMemory where
  io := .powerOn
  vram := Array.replicate 50 0 ++ #[1] ++ Array.replicate 6093 0 ++ #[1, 4]
  palette := #[0, 0, 0x1F, 0]

/-- Of four screens the last one is at the lower right, with an entry in its first corner that flips
its tile both ways. The point three to the right of the corner and four below it has the colour of
the tile at its other end, in the large map as in the map of that screen alone. -/
theorem textMap_of_four_screens :
    let info := BackgroundInfo.ofControl 0xC000 true
    (3 : Byte).toNat = info.screenBaseBlock.toNat + (259 / 256 + 260 / 256 * (512 / 256)) ∧
      fourScreens.textMapColor? info 512 259 260 = some 0x1F ∧
      fourScreens.textMapColor? info 512 259 260 =
        fourScreens.textMapColor? { info with screenBaseBlock := 3 } 256 3 4 := by
  intro info
  have increased : (3 : Byte).toNat =
      info.screenBaseBlock.toNat + (259 / 256 + 260 / 256 * (512 / 256)) := by decide
  obtain ⟨shown, tiled⟩ := fourScreens.textMap_tiled_by_screens info 512 259 260
  have block : info.screenBaseBlock.toNat = 0 := by decide
  have base : info.characterBase = 0 := by decide
  have colors : info.colorMode = .colors16 := by decide
  have entry : fourScreens.screenEntry 3 0 0 = 0x0401 := by
    simp [screenEntry, screenBlockBytes, vram16, vram8, fourScreens, Half.ofBytes]
  have index : fourScreens.tilePixel 0 .colors16 1 4 4 = 1 := by
    simp [tilePixel, vram8, fourScreens, Array.getElem_push]
  have color : fourScreens.paletteColor 1 = 0x1F := by
    simp [paletteColor, fourScreens, Half.ofBytes]
  have red : fourScreens.entryColor? info 0x0401 3 4 = some 0x1F := by
    simp [entryColor?, base, colors, index, color]
  refine ⟨increased, shown.trans ?_, tiled 3 increased⟩
  simp only [block, screenColor?]
  exact (congrArg (fourScreens.entryColor? info · 3 4) entry).trans red

end VideoMemory

end Handheld
