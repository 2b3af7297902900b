import Handheld.Memory.Keypad

/-!
# Peripheral registers

The registers are stored as bytes. What sets them apart from memory is decided byte by byte, so
that accesses of every width agree: some bytes ignore writes of the program, the interrupt
requests are cleared by writing ones, some bytes cannot be read back by the program, and writing
one of them asks for low power. The hardware stores halfwords without any of these rules.
-/

namespace Handheld

/-- Where a register byte is stored. -/
abbrev IoOffset := BitVec 10

namespace IoOffset

/-- Display control. -/
def dispcnt : IoOffset := 0x000

/-- Display status. -/
def dispstat : IoOffset := 0x004

/-- The line being drawn. -/
def vcount : IoOffset := 0x006

/-- Control of background 0; the others follow. -/
def bg0cnt : IoOffset := 0x008

/-- Horizontal scroll of background 0. Vertical scroll and the other backgrounds follow. -/
def bg0hofs : IoOffset := 0x010

/-- First affine parameter of background 2. The other parameters, the reference point and
background 3 follow. -/
def bg2pa : IoOffset := 0x020

/-- Mosaic block size. -/
def mosaic : IoOffset := 0x04C

/-- State of the keys. -/
def keyinput : IoOffset := 0x130

/-- Interrupt control of the keys. -/
def keycnt : IoOffset := 0x132

/-- Enabled interrupts. -/
def interruptEnable : IoOffset := 0x200

/-- Requested interrupts. -/
def interruptFlags : IoOffset := 0x202

/-- Master switch of interrupts. -/
def masterEnable : IoOffset := 0x208

/-- Low-power control. -/
def haltcnt : IoOffset := 0x301

/-- The lower byte of the halfword that holds an offset. -/
def even (offset : IoOffset) : IoOffset := offset &&& 0x3FE

/-- The upper byte of the halfword that holds an offset. -/
def odd (offset : IoOffset) : IoOffset := offset ||| 1

/-- Whether the program reads zero whatever is stored: scroll, affine parameters, mosaic and
low-power control. -/
def writeOnly (offset : IoOffset) : Bool :=
  (0x010#10 ≤ offset && offset < 0x040#10) || offset.even == mosaic || offset == haltcnt

end IoOffset

/-- What a write of the program does to a register byte. -/
inductive IoWriteRule where
  /-- The byte is replaced. -/
  | replace
  /-- The byte is replaced but for the masked bits. -/
  | keep (mask : Byte)
  /-- Written ones are cleared. -/
  | clearOnes
  /-- The byte is replaced, and low power is requested. -/
  | halt
  deriving DecidableEq, Repr

/-- The rule of each register byte. The lower status bits, the line counter and the keys belong to
the hardware. -/
def IoOffset.writeRule (offset : IoOffset) : IoWriteRule :=
  if offset = dispstat then .keep 0b111
  else if offset.even = vcount ∨ offset.even = keyinput then .keep 0xFF
  else if offset.even = interruptFlags then .clearOnes
  else if offset = haltcnt then .halt
  else .replace

/-- The register bytes, and whether low power was requested and not yet entered. -/
structure IoRegisters where
  bytes : Vector Byte 1024
  haltRequested : Bool
  deriving DecidableEq

namespace IoRegisters

/-- A stored byte. -/
def readByte (io : IoRegisters) (offset : IoOffset) : Byte := io.bytes[offset.toNat]

/-- A byte as the program reads it. -/
def cpuReadByte (io : IoRegisters) (offset : IoOffset) : Byte :=
  if offset.writeOnly then 0 else io.readByte offset

/-- The stored halfword that holds an offset. -/
def readHalf (io : IoRegisters) (offset : IoOffset) : Half :=
  Half.ofBytes (io.readByte offset.even) (io.readByte offset.odd)

/-- Stores a byte. -/
def storeByte (io : IoRegisters) (offset : IoOffset) (value : Byte) : IoRegisters :=
  { io with bytes := io.bytes.set offset.toNat value }

/-- Stores a halfword, as the hardware does. -/
def storeHalf (io : IoRegisters) (offset : IoOffset) (value : Half) : IoRegisters :=
  (io.storeByte offset.even value.low).storeByte offset.odd value.high

/-- Writes a byte, as the program does. -/
def writeByte (io : IoRegisters) (offset : IoOffset) (value : Byte) : IoRegisters :=
  match offset.writeRule with
  | .replace => io.storeByte offset value
  | .keep mask => io.storeByte offset ((io.readByte offset &&& mask) ||| (value &&& ~~~mask))
  | .clearOnes => io.storeByte offset (io.readByte offset &&& ~~~value)
  | .halt => { io.storeByte offset value with haltRequested := true }

/-- Writes a halfword, as the program does. -/
def writeHalf (io : IoRegisters) (offset : IoOffset) (value : Half) : IoRegisters :=
  (io.writeByte offset.even value.low).writeByte offset.odd value.high

/-- The registers at power-on: no key is held. -/
def powerOn : IoRegisters :=
  storeHalf ⟨Vector.replicate 1024 0, false⟩ .keyinput Key.idle

/-- Forgets a request for low power. -/
def clearHaltRequest (io : IoRegisters) : IoRegisters := { io with haltRequested := false }

/-! ## Interrupts -/

/-- The enabled interrupts. -/
def interruptEnable (io : IoRegisters) : Half := io.readHalf .interruptEnable

/-- The requested interrupts. -/
def interruptFlags (io : IoRegisters) : Half := io.readHalf .interruptFlags

/-- Whether interrupts are taken at all. -/
def masterEnable (io : IoRegisters) : Bool := (io.readHalf .masterEnable).getLsbD 0

/-- The interrupts that are both enabled and requested. -/
def pendingInterrupts (io : IoRegisters) : Half :=
  io.interruptEnable &&& io.interruptFlags &&& Interrupt.allMask

/-- Requests an interrupt. -/
def requestInterrupt (io : IoRegisters) (source : Interrupt) : IoRegisters :=
  io.storeHalf .interruptFlags (io.interruptFlags ||| source.mask)

/-- Requests an interrupt if `condition` holds. -/
def requestIf (io : IoRegisters) (condition : Bool) (source : Interrupt) : IoRegisters :=
  if condition then io.requestInterrupt source else io

/-! ## Keys -/

/-- The state of the keys: a clear bit for each key that is held. -/
def keyInput (io : IoRegisters) : Half := io.readHalf .keyinput

/-- Whether the held keys are those the key control waits for: any of the selected ones, or all of
them and at least one. -/
def keypadCondition (io : IoRegisters) : Bool :=
  let control := io.readHalf .keycnt
  let selected := control &&& Key.idle
  let held := ~~~io.keyInput &&& Key.idle
  control.getLsbD 14 &&
    if control.getLsbD 15 then selected != 0 && held &&& selected == selected
    else held &&& selected != 0

/-- Presses or releases a key, and requests the keypad interrupt when its condition holds. -/
def setKey (io : IoRegisters) (key : Key) (pressed : Bool) : IoRegisters :=
  let keys := if pressed then io.keyInput &&& ~~~key.mask else io.keyInput ||| key.mask
  let stored := io.storeHalf .keyinput keys
  stored.requestIf stored.keypadCondition .keypad

end IoRegisters

end Handheld
