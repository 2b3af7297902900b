import Handheld.Cpu.Mode

/-!
# Status registers

The bits of the current and the saved program status registers, as masks.
-/

namespace Handheld.Status

/-- Negative result. -/
def negative : Word := 0x80000000

/-- Zero result. -/
def zero : Word := 0x40000000

/-- Carry out of the adder (no borrow for subtractions) or of the shifter. -/
def carry : Word := 0x20000000

/-- Signed overflow. -/
def overflow : Word := 0x10000000

/-- Interrupts are masked. -/
def irqMask : Word := 0x80

/-- Fast interrupts are masked. -/
def fiqMask : Word := 0x40

/-- Thumb state. -/
def thumb : Word := 0x20

/-- The five mode bits. -/
def modeMask : Word := 0x1F

/-- The mode field of a status word. -/
def modeField (status : Word) : BitVec 5 := status.extractLsb' 0 5

/-- The status word with its mode field replaced. -/
def withMode (status : Word) (mode : Mode) : Word :=
  (status &&& ~~~modeMask) ||| mode.bits.setWidth 32

/-- The status at power-on: Supervisor mode, all interrupts masked, ARM state, flags clear. -/
def powerOn : Word := irqMask ||| fiqMask ||| Mode.supervisor.bits.setWidth 32

end Handheld.Status
