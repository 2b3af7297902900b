import Handheld.Memory.Region
import Handheld.Memory.BootRom
import Handheld.Memory.Io

/-!
# The bus

The storage of every region and the reads and writes of the program in three widths. Reads and
writes use the halfword or word that holds the address. A byte written to the palette or to video
memory fills both bytes of its halfword, a byte written to object memory is lost, and writes to the
peripheral registers follow the rules of each byte.
-/

namespace Handheld

/-- Everything the processor can address. -/
structure Bus where
  bios : Vector Byte 0x4000
  ewram : Vector Byte 0x40000
  iwram : Vector Byte 0x8000
  io : IoRegisters
  palette : Vector Byte 0x400
  vram : Vector Byte 0x18000
  oam : Vector Byte 0x400
  /-- The image in the game pak. -/
  gamePak : Array Byte
  sram : Vector Byte 0x10000
  deriving DecidableEq

namespace Bus

/-- The bus at power-on, without a game pak. -/
def powerOn : Bus where
  bios := BootRom.image
  ewram := Vector.replicate 0x40000 0
  iwram := Vector.replicate 0x8000 0
  io := .powerOn
  palette := Vector.replicate 0x400 0
  vram := Vector.replicate 0x18000 0
  oam := Vector.replicate 0x400 0
  gamePak := #[]
  sram := Vector.replicate 0x10000 0

/-- Puts an image into the game pak, as much of it as fits. -/
def loadGamePak (bus : Bus) (image : Array Byte) : Bus :=
  { bus with gamePak := image.take gamePakCapacity }

/-- The stored byte at an offset of a region, if there is one. -/
def stored? (bus : Bus) (region : Region) (offset : Nat) : Option Byte :=
  match region with
  | .bios => bus.bios[offset]?
  | .ewram => bus.ewram[offset]?
  | .iwram => bus.iwram[offset]?
  | .io => bus.io.bytes[offset]?
  | .palette => bus.palette[offset]?
  | .vram => bus.vram[offset]?
  | .oam => bus.oam[offset]?
  | .gamePak => bus.gamePak[offset]?
  | .sram => bus.sram[offset]?
  | .openBus => none

/-- Replaces the stored byte at an offset of a memory region. The ROMs keep theirs, and the
peripheral registers are not memory. -/
def store (bus : Bus) (region : Region) (offset : Nat) (value : Byte) : Bus :=
  match region with
  | .ewram => { bus with ewram := bus.ewram.setIfInBounds offset value }
  | .iwram => { bus with iwram := bus.iwram.setIfInBounds offset value }
  | .palette => { bus with palette := bus.palette.setIfInBounds offset value }
  | .vram => { bus with vram := bus.vram.setIfInBounds offset value }
  | .oam => { bus with oam := bus.oam.setIfInBounds offset value }
  | .sram => { bus with sram := bus.sram.setIfInBounds offset value }
  | .bios | .io | .gamePak | .openBus => bus

/-! ## Reads -/

/-- The offset of a peripheral register byte. -/
def ioOffset (address : Word) : IoOffset := address.extractLsb' 0 10

/-- Reads a byte. -/
def read8 (bus : Bus) (address : Word) : Byte :=
  let region := Region.ofAddress address
  if region = .io then bus.io.cpuReadByte (ioOffset address)
  else
    match region.offset? address with
    | some offset => (bus.stored? region offset).getD openBusValue
    | none => openBusValue

/-- Reads the halfword that holds an address. -/
def read16 (bus : Bus) (address : Word) : Half :=
  let base := address.alignHalf
  Half.ofBytes (bus.read8 base) (bus.read8 (base ||| 1))

/-- Reads the word that holds an address. -/
def read32 (bus : Bus) (address : Word) : Word :=
  let base := address.alignWord
  Word.ofBytes (bus.read8 base) (bus.read8 (base ||| 1)) (bus.read8 (base ||| 2))
    (bus.read8 (base ||| 3))

/-! ## Writes -/

/-- Writes a byte of memory. -/
def store8 (bus : Bus) (address : Word) (value : Byte) : Bus :=
  let region := Region.ofAddress address
  match region.offset? address with
  | some offset => bus.store region offset value
  | none => bus

/-- Writes the halfword that holds an address. -/
def write16 (bus : Bus) (address : Word) (value : Half) : Bus :=
  let base := address.alignHalf
  if Region.ofAddress base = .io then { bus with io := bus.io.writeHalf (ioOffset base) value }
  else (bus.store8 base value.low).store8 (base ||| 1) value.high

/-- Writes the word that holds an address, its low halfword first. -/
def write32 (bus : Bus) (address : Word) (value : Word) : Bus :=
  let base := address.alignWord
  (bus.write16 base value.lowHalf).write16 (base ||| 2) value.highHalf

/-- Writes a byte. -/
def write8 (bus : Bus) (address : Word) (value : Byte) : Bus :=
  match Region.ofAddress address with
  | .io => { bus with io := bus.io.writeByte (ioOffset address) value }
  | .palette | .vram => bus.write16 address (Half.ofBytes value value)
  | .oam => bus
  | _ => bus.store8 address value

/-! ## Loads

A load from an address that is not aligned to its width reads the aligned unit and rotates the
addressed byte into the low byte.
-/

/-- Loads a byte. -/
def loadByte (bus : Bus) (address : Word) : Word := (bus.read8 address).setWidth 32

/-- Loads a byte with its sign. -/
def loadSignedByte (bus : Bus) (address : Word) : Word := (bus.read8 address).signExtend 32

/-- Loads a word. -/
def loadWord (bus : Bus) (address : Word) : Word :=
  (bus.read32 address).rotateRight (8 * (address.extractLsb' 0 2).toNat)

/-- Loads a halfword. -/
def loadHalf (bus : Bus) (address : Word) : Word :=
  ((bus.read16 address).setWidth 32).rotateRight (8 * (address.extractLsb' 0 1).toNat)

/-- Loads a halfword with its sign; from an odd address, a byte with its sign. -/
def loadSignedHalf (bus : Bus) (address : Word) : Word :=
  if address.getLsbD 0 then bus.loadSignedByte address
  else (bus.read16 address).signExtend 32

/-! ## Inspection -/

/-- Shows the word that holds an address, with the addressed byte in the low byte. -/
def peekWord (bus : Bus) (address : Word) : Word :=
  (bus.read32 address).rotateRight (8 * (address &&& 3)).toNat

/-- Shows the halfword that holds an address, rotated by a byte if the address is odd. -/
def peekHalf (bus : Bus) (address : Word) : Word :=
  ((bus.read16 address).setWidth 32).rotateRight (8 * (address &&& 1)).toNat

end Bus

end Handheld
