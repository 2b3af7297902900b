import Handheld.Video.Color
import Handheld.Video.Sample

/-!
# Frames

A frame is composed from the video state alone. At each point the frontmost visible layer that is
not transparent there decides the colour, and the first palette entry where there is none. Layers
of one priority are in the order of their backgrounds. A layer with mosaic shows, in each block of
points, the colour of the block's corner. A display that is switched off is white.
-/

namespace Handheld

/-- Width of the screen in pixels. -/
def screenWidth : Nat := 240

/-- Height of the screen in pixels. -/
def screenHeight : Nat := 160

/-- Bytes of a frame. -/
def frameBytes : Nat := screenWidth * screenHeight * 4

namespace VideoMemory

/-- The layer a background makes, if the mode draws it and the display control shows it. -/
def layer? (video : VideoMemory) (index : Fin 4) : Option Layer :=
  let info := video.background index
  match layerKind? video.mode index with
  | some kind => if info.enabled then some ⟨index, kind, info⟩ else none
  | none => none

/-- Whether the first of two layers is drawn in front. -/
def inFront (a b : Layer) : Bool :=
  a.info.priority < b.info.priority || a.info.priority == b.info.priority && a.index ≤ b.index

/-- Puts a layer into its place among layers from front to back. -/
def insertLayer (layer : Layer) : List Layer → List Layer
  | [] => [layer]
  | next :: rest =>
    if inFront layer next then layer :: next :: rest else next :: insertLayer layer rest

/-- The visible layers from front to back. -/
def layers (video : VideoMemory) : List Layer :=
  ((List.finRange 4).filterMap video.layer?).foldr insertLayer []

/-- The corner of the mosaic block that holds a point. -/
def mosaicCorner (video : VideoMemory) (x y : Nat) : Nat × Nat :=
  let size := video.io.readHalf .mosaic
  let width := (size.extractLsb' 0 4).toNat + 1
  let height := (size.extractLsb' 4 4).toNat + 1
  (x - x % width, y - y % height)

/-- A layer at a point, with its mosaic. -/
def visibleColor? (video : VideoMemory) (layer : Layer) (x y : Nat) : Option Half :=
  if layer.info.mosaic then
    let (cornerX, cornerY) := video.mosaicCorner x y
    video.layerColor? layer cornerX cornerY
  else video.layerColor? layer x y

/-- The pixel that layers from front to back show at a point. -/
def compose (video : VideoMemory) (layers : List Layer) (x y : Nat) : Rgba :=
  let color? := layers.findSome? fun layer => video.visibleColor? layer x y
  .ofColor (color?.getD (video.paletteColor 0))

/-- The pixel at a point of the screen. -/
def pixel (video : VideoMemory) (layers : List Layer) (x y : Nat) : Rgba :=
  if video.forcedBlank then .white else video.compose layers x y

/-- The bytes of the frame, row by row. -/
def frame (video : VideoMemory) : Vector Byte frameBytes :=
  let layers := video.layers
  let pixels : Vector Rgba (screenWidth * screenHeight) :=
    Vector.ofFn fun i => video.pixel layers (i.val % screenWidth) (i.val / screenWidth)
  pixels.flatMap Rgba.bytes

end VideoMemory

end Handheld
