import Handheld.Memory.Io

/-!
# The video clock

Drawing goes on line by line: 1232 cycles a line, of which the last 272 are the horizontal blank,
and 228 lines a frame, of which the last 68 are the vertical blank. The clock moves from one
boundary to the next. At each boundary it updates the status and line registers and requests the
interrupts that the status register enables.
-/

namespace Handheld

namespace Clock

/-- Cycles that one dot takes. -/
def cyclesPerDot : Nat := 4

/-- Dots of a line, the blank included. -/
def dotsPerLine : Nat := 308

/-- The dot at which the horizontal blank begins. -/
def hBlankDot : Nat := 240

/-- Cycles of a line. -/
def cyclesPerLine : Nat := dotsPerLine * cyclesPerDot

/-- The cycle of a line at which the horizontal blank begins. -/
def hBlankCycle : Nat := hBlankDot * cyclesPerDot

/-- Lines of a frame, the blank included. -/
def linesPerFrame : Nat := 228

/-- The line at which the vertical blank begins. -/
def vBlankLine : Nat := 160

/-- The line at which the vertical blank is no longer reported. -/
def vBlankEndLine : Nat := 227

end Clock

/-- How far drawing has come. -/
structure Clock where
  /-- Cycles since the line began. -/
  cycle : Nat
  /-- The line being drawn. It is always one of the lines of a frame, which sixteen bits can
  count. -/
  line : Nat
  /-- Vertical blanks begun so far. There are no more of them than ticks, so that 64 bits count them
  as long as they count the ticks. -/
  frame : Nat
  deriving DecidableEq, Repr

/-- The clock with the registers it drives, and whether a vertical blank has begun. -/
structure Scan where
  clock : Clock
  io : IoRegisters
  enteredVBlank : Bool
  deriving DecidableEq

namespace Clock

/-- The clock at power-on. -/
def powerOn : Clock := ⟨0, 0, 0⟩

/-- The dot being drawn. -/
def dot (clock : Clock) : Nat := clock.cycle / cyclesPerDot

/-- The cycle of the line at which something happens next. -/
def boundary (clock : Clock) : Nat :=
  if clock.cycle < hBlankCycle then hBlankCycle else cyclesPerLine

/-- The line after this one. -/
def nextLine (clock : Clock) : Nat :=
  if clock.line + 1 = linesPerFrame then 0 else clock.line + 1

/-- The clock at the start of the next line. -/
def startLine (clock : Clock) : Clock where
  cycle := 0
  line := clock.nextLine
  frame := if clock.nextLine = vBlankLine then clock.frame + 1 else clock.frame

end Clock

/-! ## The status register -/

namespace VideoStatus

/-- The vertical blank goes on. -/
def vBlank : Half := 0x1

/-- The horizontal blank goes on. -/
def hBlank : Half := 0x2

/-- The line is the selected one. -/
def lineMatch : Half := 0x4

/-- Whether the start of the vertical blank is to request an interrupt. -/
def vBlankEnabled (status : Half) : Bool := status.getLsbD 3

/-- Whether the start of a horizontal blank is to request an interrupt. -/
def hBlankEnabled (status : Half) : Bool := status.getLsbD 4

/-- Whether the start of the selected line is to request an interrupt. -/
def lineMatchEnabled (status : Half) : Bool := status.getLsbD 5

/-- The selected line. -/
def selectedLine (status : Half) : Nat := status.high.toNat

/-- Sets or clears the bits of a mask. -/
def assign (status mask : Half) (value : Bool) : Half :=
  if value then status ||| mask else status &&& ~~~mask

/-- The status at the start of a line. -/
def atLine (status : Half) (line : Nat) : Half :=
  let running := assign status hBlank false
  let blanked :=
    if line = Clock.vBlankLine then assign running vBlank true
    else if line = Clock.vBlankEndLine then assign running vBlank false
    else running
  assign blanked lineMatch (line == selectedLine status)

end VideoStatus

namespace IoRegisters

/-- The status register. -/
def videoStatus (io : IoRegisters) : Half := io.readHalf .dispstat

/-- Begins a horizontal blank. -/
def beginHBlank (io : IoRegisters) : IoRegisters :=
  let status := VideoStatus.assign io.videoStatus VideoStatus.hBlank true
  (io.storeHalf .dispstat status).requestIf (VideoStatus.hBlankEnabled status) .hBlank

/-- Begins a line. -/
def beginLine (io : IoRegisters) (line : Nat) : IoRegisters :=
  let status := io.videoStatus
  let counted := io.storeHalf .vcount (BitVec.ofNat 16 line)
  let requested :=
    (counted.requestIf (line == Clock.vBlankLine && VideoStatus.vBlankEnabled status) .vBlank)
      |>.requestIf
        (line == VideoStatus.selectedLine status && VideoStatus.lineMatchEnabled status) .vCount
  requested.storeHalf .dispstat (VideoStatus.atLine status line)

end IoRegisters

namespace Scan

/-- Moves on by `cycles`, not beyond the boundary ahead, and does what happens there. -/
def moveOn (scan : Scan) (cycles : Nat) : Scan :=
  let position := scan.clock.cycle + cycles
  if position = Clock.hBlankCycle then
    { scan with clock := { scan.clock with cycle := position }, io := scan.io.beginHBlank }
  else if position = Clock.cyclesPerLine then
    let line := scan.clock.nextLine
    { clock := scan.clock.startLine
      io := scan.io.beginLine line
      enteredVBlank := scan.enteredVBlank || line == Clock.vBlankLine }
  else { scan with clock := { scan.clock with cycle := position } }

/-- Moves on by any number of cycles, boundary by boundary. A clock at or past the end of its line
has no boundary ahead and stands still. -/
def run (scan : Scan) (cycles : Nat) : Scan :=
  let ahead := scan.clock.boundary - scan.clock.cycle
  if cycles = 0 ∨ ahead = 0 then scan
  else (scan.moveOn (min cycles ahead)).run (cycles - ahead)
termination_by cycles

end Scan

/-- Advances a clock and the registers it drives. -/
def Clock.advance (clock : Clock) (io : IoRegisters) (cycles : Nat) : Scan :=
  Scan.run ⟨clock, io, false⟩ cycles

end Handheld
