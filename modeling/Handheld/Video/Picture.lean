import Handheld.Video.Color
import Handheld.Video.Sample

/-!
# Pictures of layers, tiles and colours

Views for whoever debugs a program: the whole map of a background with its colours, a sheet of its
first sixteen tiles in grey, the indices of one tile, and all colours of the palette.
-/

namespace Handheld

/-- A picture of any size, row by row. -/
structure Picture where
  width : Nat
  height : Nat
  pixels : Vector Rgba (width * height)
  deriving DecidableEq

namespace Picture

/-- The picture with a given pixel at each point. -/
def ofPixels (width height : Nat) (pixel : Nat → Nat → Rgba) : Picture where
  width
  height
  pixels := Vector.ofFn fun i => pixel (i.val % width) (i.val / width)

/-- The bytes of a picture. -/
def bytes (picture : Picture) : Vector Byte (picture.width * picture.height * 4) :=
  picture.pixels.flatMap Rgba.bytes

end Picture

namespace VideoMemory

/-- The palette indices of a tile, row by row. -/
def tileIndices (video : VideoMemory) (characterBaseBlock : Byte) (tile : Nat)
    (colors : ColorMode) : Vector Byte 64 :=
  let base := characterBaseBlock.toNat * characterBlockBytes
  Vector.ofFn fun i => video.tilePixel base colors tile (i.val % 8) (i.val / 8)

/-- The grey that stands for a palette index. -/
def greyLevel (colors : ColorMode) (index : Byte) : Byte :=
  match colors with
  | .colors16 => index * 17
  | .colors256 => index

/-- The first sixteen tiles of a background, four in a row. -/
def tileSheet (video : VideoMemory) (index : Fin 4) : Picture :=
  let info := video.background index
  Picture.ofPixels 32 32 fun x y =>
    let tile := y / 8 * 4 + x / 8
    let entry := video.tilePixel info.characterBase info.colorMode tile (x % 8) (y % 8)
    .grey (greyLevel info.colorMode entry)

/-- The pixel of a colour; nothing where there is none. -/
def pixelOf (color? : Option Half) : Rgba := (color?.map Rgba.ofColor).getD .transparent

/-- The whole map of a background with its colours, transparent points left empty. There is one if
the mode draws the background from a map. -/
def layerMap? (video : VideoMemory) (index : Fin 4) : Option Picture :=
  let info := video.background index
  match layerKind? video.mode index with
  | some .text =>
    let width := info.screenSize.textWidth
    some <| Picture.ofPixels width info.screenSize.textHeight fun x y =>
      pixelOf (video.textMapColor? info width x y)
  | some .affine =>
    let side := info.screenSize.affineSide
    some <| Picture.ofPixels side side fun x y => pixelOf (video.affineMapColor? info x y)
  | some .bitmap | none => none

/-- The tile sheet of background number `n`, if there is one. -/
def tileSheet? (video : VideoMemory) (n : Nat) : Option Picture :=
  if h : n < 4 then some (video.tileSheet ⟨n, h⟩) else none

/-- The map of background number `n`, if there is one. -/
def backgroundMap? (video : VideoMemory) (n : Nat) : Option Picture :=
  if h : n < 4 then video.layerMap? ⟨n, h⟩ else none

/-- All colours of the palette: those of backgrounds, then those of objects. -/
def paletteColors (video : VideoMemory) : Vector Rgba 512 :=
  Vector.ofFn fun i => .ofColor (video.paletteColor i.val)

end VideoMemory

end Handheld
