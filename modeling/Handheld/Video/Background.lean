import Handheld.Memory.Bus

/-!
# Backgrounds

What the control register of a background says, what the renderer reads, and which backgrounds a
mode draws in which way.
-/

namespace Handheld

/-- The size field of a background. -/
inductive ScreenSize where
  | size0
  | size1
  | size2
  | size3
  deriving DecidableEq, Repr

namespace ScreenSize

/-- The size a two-bit field names. -/
def ofBits (field : BitVec 2) : ScreenSize :=
  match field with
  | 0#2 => size0
  | 1#2 => size1
  | 2#2 => size2
  | _ => size3

/-- Width of a text background in pixels. -/
def textWidth : ScreenSize → Nat
  | size0 | size2 => 256
  | size1 | size3 => 512

/-- Height of a text background in pixels. -/
def textHeight : ScreenSize → Nat
  | size0 | size1 => 256
  | size2 | size3 => 512

/-- Width and height of an affine background in pixels. -/
def affineSide : ScreenSize → Nat
  | size0 => 128
  | size1 => 256
  | size2 => 512
  | size3 => 1024

end ScreenSize

/-- How many colours a tile chooses from. -/
inductive ColorMode where
  /-- Four bits a pixel and sixteen palettes. -/
  | colors16
  /-- Eight bits a pixel and one palette. -/
  | colors256
  deriving DecidableEq, Repr

/-- A background as its control register describes it. -/
structure BackgroundInfo where
  /-- Backgrounds of lower priority values are drawn in front. -/
  priority : BitVec 2
  /-- Where the tiles are, in units of 16 KiB. -/
  characterBaseBlock : Byte
  /-- Where the map is, in units of 2 KiB. -/
  screenBaseBlock : Byte
  screenSize : ScreenSize
  colorMode : ColorMode
  mosaic : Bool
  /-- An affine map repeats beyond its edges. -/
  wraparound : Bool
  /-- The display control shows the background. -/
  enabled : Bool
  deriving DecidableEq, Repr

/-- Bytes of a block of tiles. -/
def characterBlockBytes : Nat := 0x4000

/-- Bytes of a map of 32 by 32 tiles. -/
def screenBlockBytes : Nat := 0x800

namespace BackgroundInfo

/-- Reads a control register. -/
def ofControl (control : Half) (enabled : Bool) : BackgroundInfo where
  priority := control.extractLsb' 0 2
  characterBaseBlock := (control.extractLsb' 2 2).setWidth 8
  screenBaseBlock := (control.extractLsb' 8 5).setWidth 8
  screenSize := .ofBits (control.extractLsb' 14 2)
  colorMode := if control.getLsbD 7 then .colors256 else .colors16
  mosaic := control.getLsbD 6
  wraparound := control.getLsbD 13
  enabled

/-- Where the tiles begin in video memory. -/
def characterBase (info : BackgroundInfo) : Nat :=
  info.characterBaseBlock.toNat * characterBlockBytes

/-- Where the map begins in video memory. -/
def screenBase (info : BackgroundInfo) : Nat := info.screenBaseBlock.toNat * screenBlockBytes

end BackgroundInfo

/-- Everything the renderer reads. -/
structure VideoMemory where
  io : IoRegisters
  vram : Array Byte
  palette : Array Byte
  deriving DecidableEq

namespace VideoMemory

/-- The video state of a bus. -/
def ofBus (bus : Bus) : VideoMemory := ⟨bus.io, bus.vram.toArray, bus.palette.toArray⟩

/-- The display control. -/
def displayControl (video : VideoMemory) : Half := video.io.readHalf .dispcnt

/-- The background mode. -/
def mode (video : VideoMemory) : BitVec 3 := video.displayControl.extractLsb' 0 3

/-- Whether the display is switched off. -/
def forcedBlank (video : VideoMemory) : Bool := video.displayControl.getLsbD 7

/-- A background as its registers describe it. -/
def background (video : VideoMemory) (index : Fin 4) : BackgroundInfo :=
  .ofControl (video.io.readHalf (.bg0cnt + BitVec.ofNat 10 (2 * index.val)))
    (video.displayControl.getLsbD (8 + index.val))

/-- Background number `n`, if there is one. -/
def background? (video : VideoMemory) (n : Nat) : Option BackgroundInfo :=
  if h : n < 4 then some (video.background ⟨n, h⟩) else none

/-- All backgrounds. -/
def backgrounds (video : VideoMemory) : List BackgroundInfo :=
  (List.finRange 4).map video.background

/-- A byte of video memory, which is zero past its end. -/
def vram8 (video : VideoMemory) (offset : Nat) : Byte := video.vram[offset]?.getD 0

/-- Two bytes of video memory. -/
def vram16 (video : VideoMemory) (offset : Nat) : Half :=
  Half.ofBytes (video.vram8 offset) (video.vram8 (offset + 1))

/-- A colour of the palette, which has 512 entries. -/
def paletteColor (video : VideoMemory) (index : Nat) : Half :=
  let offset := index % 512 * 2
  Half.ofBytes (video.palette[offset]?.getD 0) (video.palette[offset + 1]?.getD 0)

end VideoMemory

/-- How a background is drawn. -/
inductive LayerKind where
  /-- From a map of tiles, scrolled. -/
  | text
  /-- From a map of tiles, rotated and scaled. -/
  | affine
  /-- Pixel by pixel. -/
  | bitmap
  deriving DecidableEq, Repr

/-- How a mode draws a background, if it does. -/
def layerKind? (mode : BitVec 3) (index : Fin 4) : Option LayerKind :=
  match mode.toNat, index.val with
  | 0, _ => some .text
  | 1, 0 | 1, 1 => some .text
  | 1, 2 => some .affine
  | 2, 2 | 2, 3 => some .affine
  | 3, 2 | 4, 2 | 5, 2 => some .bitmap
  | _, _ => none

end Handheld
