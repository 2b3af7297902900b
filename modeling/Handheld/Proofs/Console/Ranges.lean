import Handheld.Proofs.Arm.LongMultiply
import Handheld.Proofs.Console.HardwareState
import Handheld.Proofs.Cpu.ShiftCounts
import Handheld.Proofs.Video.Canvas
import Handheld.Proofs.Video.Turns

/-!
# Ranges

Where the console subtracts, shifts, multiplies, narrows or indexes, a computation that is refused
out of range has the value of the console's own (`Console.InRange`). That is so in every state that
the console comes to (`Console.inRange_reachable`): the clock is within its line, the layers that
are drawn as affine maps are those with a transform, and the rest holds of all operands and
memories.
-/

namespace Handheld.Console

/-- Nothing that is computed is out of range, by the clock of a console, from operands of any value,
and from the memory of the video hardware. -/
structure InRange (console : Console) (video : VideoMemory) : Prop where
  /-- Before every turn of its loop the clock has a boundary ahead, to which a number of cycles
  leads. The turn uses cycles up, and the loop goes on to where all cycles lead. -/
  turn : ∀ {io : IoRegisters} {cycles left : Nat} {scan : Scan},
    Scan.Underway ⟨console.clock, io, false⟩ cycles scan left → 0 < left →
      scan.clock.cycle < scan.clock.boundary ∧
        ∃ next rest, scan.checkedTurn left = some (next, rest) ∧ rest < left ∧
          next.run rest = console.clock.advance io cycles
  shiftByImmediate : ∀ (kind : ShiftKind) (value : Word) (amount : Byte) (carry : Bool),
    Shifted.checkedByImmediate kind value amount carry =
      some (Shifted.byImmediate kind value (amount.setWidth 5) carry)
  shiftByRegister : ∀ (kind : ShiftKind) (value amount : Word) (carry : Bool),
    Shifted.checkedByRegister kind value amount carry =
      some (Shifted.byRegister kind value amount.lowByte carry)
  multiplyLong : ∀ (signed accumulate setFlags : Bool) (rdHigh rdLow rs rm : RegNum)
    (regs : RegisterFile),
    Arm.checkedMultiplyLong signed accumulate setFlags rdHigh rdLow rs rm regs =
      some (Arm.multiplyLong signed accumulate setFlags rdHigh rdLow rs rm regs)
  /-- The visible layers that are drawn as affine maps are backgrounds 2 and 3. -/
  affineIndex : ∀ layer ∈ video.layers, layer.kind = .affine → layer.index = 2 ∨ layer.index = 3
  affineColor : ∀ (layer : Layer) (x y : Nat), x < screenWidth → y < screenHeight →
    video.checkedAffineColor layer x y = some (video.affineColor? layer x y)
  affineMapColor : ∀ (info : BackgroundInfo) (x y : Int),
    video.checkedAffineMapColor info x y = some (video.affineMapColor? info x y)
  /-- Every grey of a sheet of tiles fits into a byte, and every pixel of it into the picture. -/
  tileSheet : ∀ index : Fin 4,
    video.checkedTileSheet index = some (.ofPicture (video.tileSheet index))
  /-- Every pixel of the map of a background fits into the picture. -/
  layerMap : ∀ index : Fin 4,
    video.checkedLayerMap index = some ((video.layerMap? index).map .ofPicture)

/-- Whatever was done to a console, nothing that it computes is out of range: no sum overflows, no
difference is negative, no index is outside, and no pixel is dropped. -/
theorem inRange_reachable {console : Console} (reachable : console.Reachable)
    (video : VideoMemory) : console.InRange video := by
  have inLine : console.clock.cycle < Clock.cyclesPerLine :=
    (showsHardware_reachable reachable).clock.inLine
  constructor
  case turn =>
    intro io cycles left scan underway goes
    exact underway.turn_of_inLine inLine goes
  case shiftByImmediate => exact Shifted.checkedByImmediate_eq
  case shiftByRegister => exact Shifted.checkedByRegister_eq
  case multiplyLong => exact Arm.checkedMultiplyLong_eq
  case affineIndex =>
    intro layer visible affine
    exact VideoMemory.index_of_affine visible affine
  case affineColor =>
    intro layer x y inRow inColumn
    exact video.checkedAffineColor_eq layer inRow inColumn
  case affineMapColor => exact video.checkedAffineMapColor_eq
  case tileSheet => exact video.checkedTileSheet_eq
  case layerMap => exact video.checkedLayerMap_eq

def booting : Console := (powerOn .default).run [.tickMultiple 3]

/-- Background 2, turned by a quarter so that a line of the screen runs up the map from its edge,
beyond which the map repeats. -/
def quarterTurn : VideoMemory where
  io := ((((IoRegisters.powerOn.storeHalf .dispcnt 0x0402).storeHalf (.bg0cnt + 4) 0x2000).storeHalf
    .bg2pa 0).storeHalf (.bg2pa + 2) 0x0100).storeHalf (.bg2pa + 4) 0xFF00
  vram := Array.replicate 240 0 ++ #[4] ++ Array.replicate 59 0 ++ #[1]
  palette := #[0, 0, 0x1F, 0]

/-- The clock of a console that starts goes on from within its first line, and the turned background
has a colour from beyond the edge of its map. -/
theorem inRange_booting_quarterTurn :
    booting.Reachable ∧
      (∃ next rest, (⟨booting.clock, .powerOn, false⟩ : Scan).checkedTurn 2000 = some (next, rest) ∧
        rest < 2000 ∧ next.run rest = booting.clock.advance .powerOn 2000) ∧
      ∃ layer ∈ quarterTurn.layers, layer.kind = .affine ∧ (layer.index = 2 ∨ layer.index = 3) ∧
        (quarterTurn.transform layer.index).apply 3 4 = (4, -3) ∧
        quarterTurn.checkedAffineColor layer 3 4 = some (some 0x1F) := by
  have reachable : booting.Reachable := ⟨_, _, rfl⟩
  have inRange := inRange_reachable reachable quarterTurn
  let turned : Layer := ⟨2, .affine, quarterTurn.background 2⟩
  obtain ⟨visible, point, red⟩ : turned ∈ quarterTurn.layers ∧
      (quarterTurn.transform 2).apply 3 4 = (4, -3) ∧
      quarterTurn.affineColor? turned 3 4 = some 0x1F := by
    decide +kernel
  let start : Scan := ⟨booting.clock, .powerOn, false⟩
  have underway : Scan.Underway start 2000 start 2000 := .start
  have goesOn := inRange.turn underway (by decide)
  have color := inRange.affineColor turned 3 4 (by decide) (by decide)
  rw [red] at color
  exact ⟨reachable, goesOn.2, turned, visible, rfl, inRange.affineIndex turned visible rfl, point,
    color⟩

end Handheld.Console
