import Handheld.Video.Frame
import Handheld.Video.Picture

/-!
# Pixels in the bytes of pictures

Pictures and frames are handed out as bytes, row by row and four to a pixel. `pixelAt?` reads a
pixel of such a picture; `Picture.pixelAt?_ofPixels` and `VideoMemory.pixelAt?_frame` say that it
finds the pixel that was drawn.
-/

namespace Handheld

/-- The pixel at a point of a picture that is given by its bytes. -/
def pixelAt? {size : Nat} (bytes : Vector Byte size) (width x y : Nat) : Option Rgba :=
  let first := (y * width + x) * 4
  match bytes[first]?, bytes[first + 1]?, bytes[first + 2]?, bytes[first + 3]? with
  | some red, some green, some blue, some alpha => some ⟨red, green, blue, alpha⟩
  | _, _, _, _ => none

section Bytes

variable {count : Nat} (pixels : Vector Rgba count)

theorem getElem?_flatMap_bytes {i channel : Nat} (inside : i < count) (isChannel : channel < 4) :
    (pixels.flatMap Rgba.bytes)[i * 4 + channel]? = some pixels[i].bytes[channel] := by
  have bound : i * 4 + channel < count * 4 := by omega
  have position : (i * 4 + channel) / 4 = i := by omega
  have offset : (i * 4 + channel) % 4 = channel := by omega
  rw [Vector.flatMap_def, Vector.getElem?_eq_getElem bound, Vector.getElem_flatten]
  simp only [position, offset, Vector.getElem_map]

theorem pixelAt?_flatMap_bytes {width x y : Nat} (inside : y * width + x < count) :
    pixelAt? (pixels.flatMap Rgba.bytes) width x y = some pixels[y * width + x] := by
  have red := getElem?_flatMap_bytes pixels inside (by decide : 0 < 4)
  have green := getElem?_flatMap_bytes pixels inside (by decide : 1 < 4)
  have blue := getElem?_flatMap_bytes pixels inside (by decide : 2 < 4)
  have alpha := getElem?_flatMap_bytes pixels inside (by decide : 3 < 4)
  rw [Nat.add_zero] at red
  simp only [pixelAt?, red, green, blue, alpha]
  rfl

end Bytes

/-- Points are numbered row by row. -/
theorem row_add_lt {width height x y : Nat} (inRow : x < width) (inColumn : y < height) :
    y * width + x < width * height := by
  calc
    y * width + x < y * width + width := Nat.add_lt_add_left inRow _
    _ = width * (y + 1) := by rw [Nat.mul_add_one, Nat.mul_comm]
    _ ≤ width * height := Nat.mul_le_mul_left _ inColumn

theorem Picture.pixelAt?_ofPixels {width height : Nat} (pixel : Nat → Nat → Rgba) {x y : Nat}
    (inRow : x < width) (inColumn : y < height) :
    pixelAt? (Picture.ofPixels width height pixel).bytes width x y = some (pixel x y) := by
  have inside : y * width + x < width * height := row_add_lt inRow inColumn
  have column : (y * width + x) % width = x := Nat.mul_add_mod_of_lt inRow
  have row : (y * width + x) / width = y := by
    rw [Nat.mul_comm, Nat.mul_add_div (Nat.zero_lt_of_lt inRow), Nat.div_eq_of_lt inRow,
      Nat.add_zero]
  refine (pixelAt?_flatMap_bytes _ inside).trans ?_
  simp only [ofPixels, Vector.getElem_ofFn, column, row]

theorem VideoMemory.pixelAt?_frame (video : VideoMemory) {x y : Nat} (inRow : x < screenWidth)
    (inColumn : y < screenHeight) :
    pixelAt? video.frame screenWidth x y = some (video.pixel video.layers x y) :=
  Picture.pixelAt?_ofPixels (video.pixel video.layers) inRow inColumn

end Handheld
