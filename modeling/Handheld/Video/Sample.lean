import Handheld.Video.Background

/-!
# Sampling layers

The colour a background shows at a point, or nothing where it is transparent. A map is a grid of
tiles, and a tile is eight by eight palette indices of which zero is transparent. A text background
scrolls over its map; an affine one maps the screen onto it by a matrix and a reference point in
fixed point with eight fractional bits; a bitmap has its colours, or their palette indices, one
after the other.
-/

namespace Handheld

/-- A visible background. -/
structure Layer where
  index : Fin 4
  kind : LayerKind
  info : BackgroundInfo
  deriving DecidableEq, Repr

namespace VideoMemory

/-! ## Tiles -/

/-- The palette index of a pixel of a tile, within the tile's palette. -/
def tilePixel (video : VideoMemory) (base : Nat) (colors : ColorMode) (tile x y : Nat) : Byte :=
  match colors with
  | .colors16 =>
    let pair := video.vram8 (base + tile * 32 + y * 4 + x / 2)
    (if x % 2 = 0 then pair.extractLsb' 0 4 else pair.extractLsb' 4 4).setWidth 8
  | .colors256 => video.vram8 (base + tile * 64 + y * 8 + x)

/-- The colour of a point of a text map, whose entries select a tile, its palette and whether it is
flipped. Maps of more than 256 by 256 pixels are put together from maps of that size. -/
def textMapColor? (video : VideoMemory) (info : BackgroundInfo) (mapWidth x y : Nat) :
    Option Half :=
  let tileX := x / 8
  let tileY := y / 8
  let block := tileX / 32 + tileY / 32 * (mapWidth / 256)
  let entry :=
    video.vram16
      (info.screenBase + block * screenBlockBytes + (tileY % 32 * 32 + tileX % 32) * 2)
  let fineX := if entry.getLsbD 10 then 7 - x % 8 else x % 8
  let fineY := if entry.getLsbD 11 then 7 - y % 8 else y % 8
  let index :=
    video.tilePixel info.characterBase info.colorMode (entry.extractLsb' 0 10).toNat fineX fineY
  if index = 0 then none
  else
    match info.colorMode with
    | .colors16 =>
      some (video.paletteColor ((entry.extractLsb' 12 4).toNat * 16 + index.toNat))
    | .colors256 => some (video.paletteColor index.toNat)

/-- The colour of a point of an affine map. Beyond the edges the map repeats or is transparent. -/
def affineMapColor? (video : VideoMemory) (info : BackgroundInfo) (x y : Int) : Option Half :=
  let side := info.screenSize.affineSide
  let inside := 0 ≤ x ∧ x < side ∧ 0 ≤ y ∧ y < side
  if info.wraparound ∨ inside then
    let px := (x % side).toNat
    let py := (y % side).toNat
    let tile := (video.vram8 (info.screenBase + py / 8 * (side / 8) + px / 8)).toNat
    let index := video.tilePixel info.characterBase .colors256 tile (px % 8) (py % 8)
    if index = 0 then none else some (video.paletteColor index.toNat)
  else none

/-! ## Layers at a point of the screen -/

/-- How far a text background is scrolled, to the right and down. -/
def scroll (video : VideoMemory) (index : Fin 4) : Nat × Nat :=
  let offset (i : Nat) : IoOffset := .bg0hofs + BitVec.ofNat 10 (4 * index.val + i)
  let distance (i : Nat) : Nat := ((video.io.readHalf (offset i)).extractLsb' 0 9).toNat
  (distance 0, distance 2)

/-- A text background at a point. -/
def textColor? (video : VideoMemory) (layer : Layer) (x y : Nat) : Option Half :=
  let size := layer.info.screenSize
  let (right, down) := video.scroll layer.index
  video.textMapColor? layer.info size.textWidth ((x + right) % size.textWidth)
    ((y + down) % size.textHeight)

/-- The matrix and the reference point of an affine background. -/
structure Transform where
  pa : Int
  pb : Int
  pc : Int
  pd : Int
  refX : Int
  refY : Int
  deriving DecidableEq, Repr

/-- Reads the transform of background 2 or 3. The reference point has 28 bits. -/
def transform (video : VideoMemory) (index : Fin 4) : Transform :=
  let half (i : Nat) : Half :=
    video.io.readHalf (.bg2pa + BitVec.ofNat 10 (16 * (index.val - 2) + i))
  let reference (i : Nat) : Int := ((half (i + 2)).extractLsb' 0 12 ++ half i).toInt
  { pa := (half 0).toInt
    pb := (half 2).toInt
    pc := (half 4).toInt
    pd := (half 6).toInt
    refX := reference 8
    refY := reference 12 }

/-- The point of the map that a transform puts at a point of the screen. -/
def Transform.apply (t : Transform) (x y : Nat) : Int × Int :=
  ((t.refX + t.pa * x + t.pb * y) / 256, (t.refY + t.pc * x + t.pd * y) / 256)

/-- An affine background at a point. -/
def affineColor? (video : VideoMemory) (layer : Layer) (x y : Nat) : Option Half :=
  let (mapX, mapY) := (video.transform layer.index).apply x y
  video.affineMapColor? layer.info mapX mapY

/-- Where the selected page of a bitmap begins. -/
def bitmapPage (video : VideoMemory) : Nat := if video.displayControl.getLsbD 4 then 0xA000 else 0

/-- A bitmap at a point. Mode 3 has colours on the whole screen, mode 4 palette indices, and mode 5
colours on a smaller area. -/
def bitmapColor? (video : VideoMemory) (x y : Nat) : Option Half :=
  match video.mode.toNat with
  | 3 => some (video.vram16 ((y * 240 + x) * 2))
  | 4 =>
    let index := video.vram8 (video.bitmapPage + y * 240 + x)
    if index = 0 then none else some (video.paletteColor index.toNat)
  | 5 =>
    if x < 160 ∧ y < 128 then some (video.vram16 (video.bitmapPage + (y * 160 + x) * 2)) else none
  | _ => none

/-- A layer at a point. -/
def layerColor? (video : VideoMemory) (layer : Layer) (x y : Nat) : Option Half :=
  match layer.kind with
  | .text => video.textColor? layer x y
  | .affine => video.affineColor? layer x y
  | .bitmap => video.bitmapColor? x y

end VideoMemory

end Handheld
