import Handheld.Word

/-!
# Colours

The console stores a colour in fifteen bits, five each for red, green and blue from the lowest up.
Pictures hold four bytes a pixel.
-/

namespace Handheld

/-- A pixel of a picture. -/
structure Rgba where
  red : Byte
  green : Byte
  blue : Byte
  alpha : Byte
  deriving DecidableEq, Repr

namespace Rgba

/-- The bytes of a pixel. -/
def bytes (pixel : Rgba) : Vector Byte 4 :=
  #v[pixel.red, pixel.green, pixel.blue, pixel.alpha]

/-- White. -/
def white : Rgba := ⟨0xFF, 0xFF, 0xFF, 0xFF⟩

/-- Nothing. -/
def transparent : Rgba := ⟨0, 0, 0, 0⟩

/-- An opaque grey. -/
def grey (level : Byte) : Rgba := ⟨level, level, level, 0xFF⟩

/-- Five bits as a byte; the highest bits fill the places that are left. -/
def expand (channel : BitVec 5) : Byte := channel ++ channel.extractLsb' 2 3

/-- The opaque pixel of a stored colour. -/
def ofColor (color : Half) : Rgba where
  red := expand (color.extractLsb' 0 5)
  green := expand (color.extractLsb' 5 5)
  blue := expand (color.extractLsb' 10 5)
  alpha := 0xFF

end Rgba

end Handheld
