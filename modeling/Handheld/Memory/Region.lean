import Handheld.Word

/-!
# The memory map

Every address lies in one region. A region with storage shows it again and again over its whole
window, so `offset?` folds an address onto the stored byte it stands for; video memory shows its
96 KiB in steps of 128 KiB, with the last third shown twice.
-/

namespace Handheld

/-- What an address stands for. -/
inductive Region where
  /-- The boot ROM with the exception vectors. -/
  | bios
  /-- Work memory outside the processor, 256 KiB. -/
  | ewram
  /-- Work memory on the processor, 32 KiB. -/
  | iwram
  /-- Registers of the peripherals. -/
  | io
  /-- Colours of backgrounds and objects. -/
  | palette
  /-- Tiles, maps and bitmaps. -/
  | vram
  /-- Attributes of objects. -/
  | oam
  /-- The ROM of the game pak. -/
  | gamePak
  /-- The battery-backed memory of the game pak. -/
  | sram
  /-- Nothing: reads give zero and writes are lost. -/
  | openBus
  deriving DecidableEq, Repr

namespace Region

/-- Every region. -/
def all : List Region := [bios, ewram, iwram, io, palette, vram, oam, gamePak, sram, openBus]

/-- The region of an address. -/
def ofAddress (address : Word) : Region :=
  if address ≤ 0x00003FFF#32 then bios
  else if address ≤ 0x01FFFFFF#32 then openBus
  else if address ≤ 0x02FFFFFF#32 then ewram
  else if address ≤ 0x03FFFFFF#32 then iwram
  else if address ≤ 0x040003FF#32 then io
  else if address ≤ 0x04FFFFFF#32 then openBus
  else if address ≤ 0x05FFFFFF#32 then palette
  else if address ≤ 0x06FFFFFF#32 then vram
  else if address ≤ 0x07FFFFFF#32 then oam
  else if address ≤ 0x0DFFFFFF#32 then gamePak
  else if address ≤ 0x0FFFFFFF#32 then sram
  else openBus

/-- Bytes of storage behind a region. For the game pak it is the largest image it can hold. -/
def size : Region → Nat
  | bios => 0x4000
  | ewram => 0x40000
  | iwram => 0x8000
  | io => 0x400
  | palette => 0x400
  | vram => 0x18000
  | oam => 0x400
  | gamePak => 0x2000000
  | sram => 0x10000
  | openBus => 0

/-- The offset of the byte that an address of a region stands for, in the region's storage. -/
def offset? (region : Region) (address : Word) : Option Nat :=
  match region with
  | bios => some (address &&& 0x3FFF).toNat
  | ewram => some (address &&& 0x3FFFF).toNat
  | iwram => some (address &&& 0x7FFF).toNat
  | io | palette | oam => some (address &&& 0x3FF).toNat
  | vram =>
    let folded := (address &&& 0x1FFFF).toNat
    some (if folded < 0x18000 then folded else folded - 0x8000)
  | gamePak => some (address &&& 0x1FFFFFF).toNat
  | sram => some (address &&& 0xFFFF).toNat
  | openBus => none

/-- Whether writes reach the region's storage. -/
def writable : Region → Bool
  | bios | gamePak | openBus => false
  | _ => true

/-- A run of addresses, both ends included, that belongs to one region. -/
structure Span where
  region : Region
  first : Word
  last : Word
  deriving DecidableEq, Repr

/-- All addresses, in ascending order. -/
def layout : List Span :=
  [⟨bios, 0x00000000, 0x00003FFF⟩,
    ⟨openBus, 0x00004000, 0x01FFFFFF⟩,
    ⟨ewram, 0x02000000, 0x02FFFFFF⟩,
    ⟨iwram, 0x03000000, 0x03FFFFFF⟩,
    ⟨io, 0x04000000, 0x040003FF⟩,
    ⟨openBus, 0x04000400, 0x04FFFFFF⟩,
    ⟨palette, 0x05000000, 0x05FFFFFF⟩,
    ⟨vram, 0x06000000, 0x06FFFFFF⟩,
    ⟨oam, 0x07000000, 0x07FFFFFF⟩,
    ⟨gamePak, 0x08000000, 0x0DFFFFFF⟩,
    ⟨sram, 0x0E000000, 0x0FFFFFFF⟩,
    ⟨openBus, 0x10000000, 0xFFFFFFFF⟩]

end Region

/-- What a read gives where there is no storage. -/
def openBusValue : Byte := 0

/-- The most bytes of a game pak image that are kept. -/
def gamePakCapacity : Nat := Region.gamePak.size

end Handheld
