import Handheld.Proofs.Video.FixedPoint
import Handheld.Proofs.Video.Picture
import Mathlib.Data.List.ProdSigma

/-!
# Canvases

Pictures that are drawn pixel by pixel into a buffer of bytes, where a pixel that does not lie
inside the buffer is refused (`Canvas.put?`). `Canvas.Shows` says which points are drawn: a pixel
adds its point (`Canvas.Shows.put?`), a loop over pixels adds their points (`Canvas.Shows.foldlM`),
and a canvas with all its points drawn is the picture (`Canvas.Shows.eq_ofPicture`). So sheets of
tiles and maps of backgrounds are drawn without a refusal (`VideoMemory.checkedTileSheet_eq`,
`VideoMemory.checkedLayerMap_eq`).
-/

namespace Handheld

/-- What two nested loops run through. -/
theorem mem_ranges {first second i j : Nat} :
    (i, j) ∈ List.range first ×ˢ List.range second ↔ i < first ∧ j < second :=
  List.pair_mem_product.trans (and_congr List.mem_range List.mem_range)

/-- Points that have the same number are the same. -/
theorem row_add_inj {width x y x' y' : Nat} (inRow : x < width) (inRow' : x' < width)
    (same : y * width + x = y' * width + x') : (x, y) = (x', y') := by
  obtain rfl : x = x' := by
    have column : (y * width + x) % width = (y' * width + x') % width := congrArg (· % width) same
    rwa [Nat.mul_add_mod_of_lt inRow, Nat.mul_add_mod_of_lt inRow'] at column
  obtain rfl : y = y' :=
    Nat.eq_of_mul_eq_mul_right (Nat.zero_lt_of_lt inRow) (Nat.add_right_cancel same)
  rfl

/-- A picture that is being drawn, in bytes, row by row and four to a pixel. -/
structure Canvas where
  width : Nat
  height : Nat
  bytes : Array Byte
  deriving DecidableEq

namespace Canvas

/-- The canvas with nothing on it. -/
def blank (width height : Nat) : Canvas where
  width
  height
  bytes := Array.replicate (width * height * 4) 0

/-- The canvas of a finished picture. -/
def ofPicture (picture : Picture) : Canvas where
  width := picture.width
  height := picture.height
  bytes := picture.bytes.toArray

/-- Writes the bytes of a pixel. -/
def write (bytes : Array Byte) (offset : Nat) (pixel : Rgba) : Array Byte :=
  (((bytes.setIfInBounds offset pixel.red).setIfInBounds (offset + 1) pixel.green).setIfInBounds
    (offset + 2) pixel.blue).setIfInBounds (offset + 3) pixel.alpha

/-- Draws a pixel at a point, if the bytes for it are in the buffer. -/
def put? (canvas : Canvas) (x y : Nat) (pixel : Rgba) : Option Canvas :=
  let offset := (y * canvas.width + x) * 4
  if offset + 4 ≤ canvas.bytes.size then
    some { canvas with bytes := write canvas.bytes offset pixel }
  else none

/-- Draws a map row by row. Points that have no colour are left as they are. -/
def drawMap? (width height : Nat) (color? : Nat → Nat → Option (Option Half)) : Option Canvas :=
  (List.range height ×ˢ List.range width).foldlM
    (fun canvas (y, x) => do
      match ← color? x y with
      | some color => canvas.put? x y (.ofColor color)
      | none => return canvas)
    (blank width height)

/-! ## Writes -/

/-- A pixel has four channels. -/
theorem cases_channel {channel : Nat} (isChannel : channel < 4) :
    channel = 0 ∨ channel = 1 ∨ channel = 2 ∨ channel = 3 := by
  omega

@[simp]
theorem size_write (bytes : Array Byte) (offset : Nat) (pixel : Rgba) :
    (write bytes offset pixel).size = bytes.size := by
  simp [write]

theorem getElem?_write_self {bytes : Array Byte} {offset : Nat} (pixel : Rgba)
    (inside : offset + 4 ≤ bytes.size) {channel : Nat} (isChannel : channel < 4) :
    (write bytes offset pixel)[offset + channel]? = some pixel.bytes[channel] := by
  have bound : offset + channel < bytes.size := by omega
  rcases cases_channel isChannel with rfl | rfl | rfl | rfl
  all_goals simp [write, Array.getElem?_setIfInBounds, Rgba.bytes, bound]
  all_goals omega

theorem getElem?_write_of_ne {bytes : Array Byte} {offset place : Nat} (pixel : Rgba)
    (outside : place < offset ∨ offset + 4 ≤ place) :
    (write bytes offset pixel)[place]? = bytes[place]? := by
  rw [write, Array.getElem?_setIfInBounds_ne (by omega), Array.getElem?_setIfInBounds_ne (by omega),
    Array.getElem?_setIfInBounds_ne (by omega), Array.getElem?_setIfInBounds_ne (by omega)]

/-! ## What a canvas shows -/

/-- A canvas shows the pixels of a picture at the points that are drawn, and nothing elsewhere. -/
structure Shows (canvas : Canvas) (width height : Nat) (pixel : Nat → Nat → Rgba)
    (drawn : List (Nat × Nat)) : Prop where
  width_eq : canvas.width = width
  height_eq : canvas.height = height
  size_eq : canvas.bytes.size = width * height * 4
  channels : ∀ x y channel, x < width → y < height → (isChannel : channel < 4) →
    canvas.bytes[(y * width + x) * 4 + channel]? =
      some (if (x, y) ∈ drawn then pixel x y else .transparent).bytes[channel]

variable {width height : Nat} {pixel : Nat → Nat → Rgba} {canvas : Canvas}
  {drawn : List (Nat × Nat)} {x y : Nat}

theorem shows_blank (width height : Nat) (pixel : Nat → Nat → Rgba) :
    (blank width height).Shows width height pixel [] where
  width_eq := rfl
  height_eq := rfl
  size_eq := Array.size_replicate
  channels := by
    intro x y channel inRow inColumn isChannel
    have place := row_add_lt inRow inColumn
    have bound : (y * width + x) * 4 + channel < width * height * 4 := by omega
    rw [blank, Array.getElem?_replicate, if_pos bound, if_neg List.not_mem_nil]
    rcases cases_channel isChannel with rfl | rfl | rfl | rfl <;> rfl

/-- A pixel inside the picture is not refused, and no other pixel changes. So the canvas shows one
more point of the picture. -/
theorem Shows.put? (shows : canvas.Shows width height pixel drawn) (inRow : x < width)
    (inColumn : y < height) :
    ∃ next, canvas.put? x y (pixel x y) = some next ∧
      next.Shows width height pixel ((x, y) :: drawn) := by
  obtain ⟨wide, high, bytes⟩ := canvas
  obtain ⟨sameWidth, sameHeight, size, channels⟩ := shows
  dsimp only at sameWidth sameHeight size channels
  subst wide high
  have place := row_add_lt inRow inColumn
  have inside : (y * width + x) * 4 + 4 ≤ bytes.size := by omega
  refine ⟨⟨width, height, write bytes ((y * width + x) * 4) (pixel x y)⟩, if_pos inside, ?_⟩
  refine ⟨rfl, rfl, by rw [size_write, size], ?_⟩
  intro x' y' channel inRow' inColumn' isChannel
  rcases eq_or_ne (x', y') (x, y) with here | elsewhere
  · obtain ⟨rfl, rfl⟩ := Prod.mk.inj here
    rw [getElem?_write_self _ inside isChannel, if_pos List.mem_cons_self]
  · have apart : y' * width + x' ≠ y * width + x := by
      intro same
      exact elsewhere (row_add_inj inRow' inRow same)
    rw [getElem?_write_of_ne _ (by omega), channels x' y' channel inRow' inColumn' isChannel]
    simp only [List.mem_cons, elsewhere, false_or]

/-- A point where the picture shows nothing need not be drawn, since a blank canvas shows nothing
there as well. -/
theorem Shows.skip (shows : canvas.Shows width height pixel drawn)
    (nothing : pixel x y = .transparent) :
    canvas.Shows width height pixel ((x, y) :: drawn) where
  width_eq := shows.width_eq
  height_eq := shows.height_eq
  size_eq := shows.size_eq
  channels := by
    intro x' y' channel inRow inColumn isChannel
    rw [shows.channels x' y' channel inRow inColumn isChannel]
    rcases eq_or_ne (x', y') (x, y) with here | elsewhere
    · obtain ⟨rfl, rfl⟩ := Prod.mk.inj here
      simp only [nothing, ite_self]
    · simp only [List.mem_cons, elsewhere, false_or]

/-- If each step of a loop draws its point, the loop draws all of them and refuses none. By
induction on what it goes through. -/
theorem Shows.foldlM {Item : Type} {items : List Item} {point : Item → Nat × Nat}
    {step : Canvas → Item → Option Canvas} (shows : canvas.Shows width height pixel drawn)
    (steps : ∀ item ∈ items, ∀ {canvas drawn}, canvas.Shows width height pixel drawn →
      ∃ next, step canvas item = some next ∧
        next.Shows width height pixel (point item :: drawn)) :
    ∃ final, items.foldlM step canvas = some final ∧
      final.Shows width height pixel ((items.map point).reverse ++ drawn) := by
  induction items generalizing canvas drawn with
  | nil => exact ⟨canvas, rfl, shows⟩
  | cons item rest ih =>
    obtain ⟨next, stepped, nextShows⟩ := steps item List.mem_cons_self shows
    obtain ⟨final, looped, finalShows⟩ :=
      ih nextShows fun item later => steps item (List.mem_cons_of_mem _ later)
    refine ⟨final, ?_, ?_⟩
    · rw [List.foldlM_cons, stepped]
      exact looped
    · rw [List.map_cons, List.reverse_cons, List.append_assoc]
      exact finalShows

/-- Buffers of a picture that have the same channels at all points are the same, since rows, points
and channels make up all of the buffer. -/
theorem ext_channels {first second : Array Byte} (firstSize : first.size = width * height * 4)
    (secondSize : second.size = width * height * 4)
    (same : ∀ x y channel, x < width → y < height → channel < 4 →
      first[(y * width + x) * 4 + channel]? = second[(y * width + x) * 4 + channel]?) :
    first = second := by
  refine Array.ext_getElem? fun place => ?_
  rcases Nat.lt_or_ge place (width * height * 4) with inside | outside
  · -- the channel `place % 4` of point number `place / 4`
    have point : place / 4 < width * height := by omega
    have positive : 0 < width := Nat.pos_of_mul_pos_right (Nat.zero_lt_of_lt point)
    have column : place / 4 % width < width := Nat.mod_lt _ positive
    have row : place / 4 / width < height := Nat.div_lt_of_lt_mul point
    have here := same _ _ _ column row (Nat.mod_lt place (by decide : 0 < 4))
    rwa [Nat.div_add_mod', Nat.div_add_mod'] at here
  · rw [Array.getElem?_eq_none (firstSize ▸ outside), Array.getElem?_eq_none (secondSize ▸ outside)]

theorem getElem?_ofPicture (pixel : Nat → Nat → Rgba) (inRow : x < width) (inColumn : y < height)
    {channel : Nat} (isChannel : channel < 4) :
    (ofPicture (.ofPixels width height pixel)).bytes[(y * width + x) * 4 + channel]? =
      some (pixel x y).bytes[channel] := by
  have point : y * width + x < width * height := row_add_lt inRow inColumn
  have column : (y * width + x) % width = x := Nat.mul_add_mod_of_lt inRow
  have row : (y * width + x) / width = y := by
    rw [Nat.add_comm, Nat.add_mul_div_right _ _ (Nat.zero_lt_of_lt inRow), Nat.div_eq_of_lt inRow,
      Nat.zero_add]
  rw [ofPicture, Vector.getElem?_toArray, Picture.bytes]
  refine (getElem?_flatMap_bytes _ point isChannel).trans ?_
  simp only [Picture.ofPixels, Vector.getElem_ofFn, column, row]

/-- A canvas on which all points are drawn is the finished picture, byte by byte. -/
theorem Shows.eq_ofPicture (shows : canvas.Shows width height pixel drawn)
    (all : ∀ x y, x < width → y < height → (x, y) ∈ drawn) :
    canvas = .ofPicture (.ofPixels width height pixel) := by
  obtain ⟨wide, high, bytes⟩ := canvas
  obtain ⟨sameWidth, sameHeight, size, channels⟩ := shows
  dsimp only at sameWidth sameHeight size channels
  subst wide high
  have sameBytes : bytes = (ofPicture (.ofPixels width height pixel)).bytes := by
    refine ext_channels size (Vector.size_toArray _) ?_
    intro x y channel inRow inColumn isChannel
    rw [channels x y channel inRow inColumn isChannel, if_pos (all x y inRow inColumn),
      getElem?_ofPicture pixel inRow inColumn isChannel]
  rw [sameBytes]
  rfl

/-- A loop over a blank canvas whose steps draw all points of a picture draws the picture, in
whatever order they come. -/
theorem foldlM_blank {Item : Type} {items : List Item} {step : Canvas → Item → Option Canvas}
    (point : Item → Nat × Nat)
    (steps : ∀ item ∈ items, ∀ {canvas drawn}, canvas.Shows width height pixel drawn →
      ∃ next, step canvas item = some next ∧
        next.Shows width height pixel (point item :: drawn))
    (all : ∀ x y, x < width → y < height → ∃ item ∈ items, point item = (x, y)) :
    items.foldlM step (blank width height) = some (.ofPicture (.ofPixels width height pixel)) := by
  obtain ⟨final, looped, shows⟩ := (shows_blank width height pixel).foldlM steps
  have complete : ∀ x y, x < width → y < height → (x, y) ∈ (items.map point).reverse ++ [] := by
    intro x y inRow inColumn
    obtain ⟨item, member, here⟩ := all x y inRow inColumn
    rw [List.append_nil, List.mem_reverse, ← here]
    exact List.mem_map_of_mem member
  rw [looped, shows.eq_ofPicture complete]

/-- A map is drawn with the colours of its points, if these can be computed without leaving their
range. Its two loops go through all rows and columns. -/
theorem drawMap?_eq {width height : Nat} {checked? : Nat → Nat → Option (Option Half)}
    {color? : Nat → Nat → Option Half} (checked : ∀ x y, checked? x y = some (color? x y)) :
    drawMap? width height checked? = some (.ofPicture (.ofPixels width height fun x y =>
      VideoMemory.pixelOf (color? x y))) := by
  refine foldlM_blank (fun item => (item.2, item.1)) ?_ ?_
  · rintro ⟨y, x⟩ member canvas drawn shows
    obtain ⟨inColumn, inRow⟩ := mem_ranges.mp member
    simp only [checked, Option.bind_eq_bind, Option.bind_some]
    cases color : color? x y with
    | some stored =>
      have here : VideoMemory.pixelOf (color? x y) = .ofColor stored := by
        rw [color]
        rfl
      obtain ⟨next, put, nextShows⟩ := shows.put? inRow inColumn
      exact ⟨next, (congrArg (canvas.put? x y) here.symm).trans put, nextShows⟩
    | none => exact ⟨canvas, rfl, shows.skip (congrArg VideoMemory.pixelOf color)⟩
  · intro x y inRow inColumn
    exact ⟨(y, x), mem_ranges.mpr ⟨inColumn, inRow⟩, rfl⟩

end Canvas

namespace VideoMemory

/-- The grey that stands for a palette index, if it fits into a byte. -/
def checkedGreyLevel (colors : ColorMode) (index : Byte) : Option Byte :=
  match colors with
  | .colors16 => byte? (index.toNat * 17)
  | .colors256 => some index

/-- The sheet of the first sixteen tiles of a background, drawn tile by tile. -/
def checkedTileSheet (video : VideoMemory) (index : Fin 4) : Option Canvas :=
  let info := video.background index
  (List.range 16 ×ˢ List.range 64).foldlM
    (fun canvas (tile, i) => do
      let indices := video.tileIndices info.characterBaseBlock tile info.colorMode
      let level ← checkedGreyLevel info.colorMode (← indices[i]?)
      canvas.put? (tile % 4 * 8 + i % 8) (tile / 4 * 8 + i / 8) (.grey level))
    (.blank 32 32)

/-- The map of a background, if the mode draws it from one. -/
def checkedLayerMap (video : VideoMemory) (index : Fin 4) : Option (Option Canvas) :=
  let info := video.background index
  match layerKind? video.mode index with
  | some .text =>
    let width := info.screenSize.textWidth
    some <$> Canvas.drawMap? width info.screenSize.textHeight fun x y =>
      some (video.textMapColor? info width x y)
  | some .affine =>
    let side := info.screenSize.affineSide
    some <$> Canvas.drawMap? side side fun x y => video.checkedAffineMapColor info x y
  | some .bitmap | none => some none

/-- Indices of tiles with sixteen colours are numbers of four bits. -/
theorem tilePixel_colors16_lt (video : VideoMemory) (base tile x y : Nat) :
    (video.tilePixel base .colors16 tile x y).toNat < 16 := by
  rw [tilePixel, BitVec.toNat_setWidth]
  exact Nat.lt_of_le_of_lt (Nat.mod_le _ _) (BitVec.isLt _)

theorem checkedGreyLevel_tilePixel (video : VideoMemory) (base : Nat) (colors : ColorMode)
    (tile x y : Nat) :
    checkedGreyLevel colors (video.tilePixel base colors tile x y) =
      some (greyLevel colors (video.tilePixel base colors tile x y)) := by
  cases colors with
  | colors16 =>
    have small := video.tilePixel_colors16_lt base tile x y
    rw [checkedGreyLevel, byte?_of_lt (by omega), greyLevel]
    refine congrArg some (BitVec.eq_of_toNat_eq ?_)
    rw [BitVec.toNat_ofNat, BitVec.toNat_mul]
    rfl
  | colors256 => rfl

theorem getElem?_tileIndices (video : VideoMemory) (info : BackgroundInfo) (tile : Nat) {i : Nat}
    (isIndex : i < 64) :
    (video.tileIndices info.characterBaseBlock tile info.colorMode)[i]? =
      some (video.tilePixel info.characterBase info.colorMode tile (i % 8) (i / 8)) := by
  rw [tileIndices, Vector.getElem?_ofFn, dif_pos isIndex]
  rfl

/-- No tile of a sheet and no grey of it is out of range, so that the checked drawing is the sheet
of the model. -/
theorem checkedTileSheet_eq (video : VideoMemory) (index : Fin 4) :
    video.checkedTileSheet index = some (.ofPicture (video.tileSheet index)) := by
  unfold checkedTileSheet tileSheet
  dsimp only
  refine Canvas.foldlM_blank
    (fun item => (item.1 % 4 * 8 + item.2 % 8, item.1 / 4 * 8 + item.2 / 8)) ?_ ?_
  · rintro ⟨tile, i⟩ member canvas drawn shows
    obtain ⟨isTile, isIndex⟩ := mem_ranges.mp member
    have inRow : tile % 4 * 8 + i % 8 < 32 := by omega
    have inColumn : tile / 4 * 8 + i / 8 < 32 := by omega
    have number : (tile / 4 * 8 + i / 8) / 8 * 4 + (tile % 4 * 8 + i % 8) / 8 = tile := by omega
    have column : (tile % 4 * 8 + i % 8) % 8 = i % 8 := by omega
    have row : (tile / 4 * 8 + i / 8) % 8 = i / 8 := by omega
    have drawnPixel := shows.put? inRow inColumn
    rw [number, column, row] at drawnPixel
    simp only [video.getElem?_tileIndices _ tile isIndex, Option.bind_eq_bind, Option.bind_some,
      checkedGreyLevel_tilePixel]
    exact drawnPixel
  · intro x y inRow inColumn
    refine ⟨(y / 8 * 4 + x / 8, y % 8 * 8 + x % 8), ?_, ?_⟩
    · refine mem_ranges.mpr ⟨?_, ?_⟩ <;> omega
    · refine Prod.ext ?_ ?_ <;> dsimp only <;> omega

/-- The map of a background is drawn without a refusal, whichever kind it is, and a background
without a map has none to draw. -/
theorem checkedLayerMap_eq (video : VideoMemory) (index : Fin 4) :
    video.checkedLayerMap index = some ((video.layerMap? index).map .ofPicture) := by
  unfold checkedLayerMap layerMap?
  cases layerKind? video.mode index with
  | none => rfl
  | some kind =>
    cases kind with
    | text =>
      refine congrArg (Option.map some) (Canvas.drawMap?_eq ?_)
      intro x y
      rfl
    | affine =>
      refine congrArg (Option.map some) (Canvas.drawMap?_eq ?_)
      intro x y
      exact video.checkedAffineMapColor_eq _ x y
    | bitmap => rfl

end VideoMemory

end Handheld
