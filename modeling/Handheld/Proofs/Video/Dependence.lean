import Handheld.Proofs.Memory.Peripherals
import Handheld.Proofs.Video.LayerViews

/-!
# What a frame depends on

A frame is made from the display control, the registers of the backgrounds and the size of the
mosaic, from video memory, and from the colours of backgrounds, which are the first 256 of the
palette. Video states that agree in these (`VideoMemory.SamePicture`) sample every layer alike
(`VideoMemory.SamePicture.layerColor?`) and so show the same frame
(`VideoMemory.frame_determined`).
-/

namespace Handheld

/-- Whether a register byte has a part in the picture: display control, the registers of the
backgrounds, and the size of the mosaic. -/
def IoOffset.drawn (offset : IoOffset) : Bool :=
  offset < 0x002#10 || 0x008#10 ≤ offset && offset < 0x040#10 || offset == mosaic

/-- A field that lies in the low byte of a halfword does not depend on the high one. -/
theorem Half.extractLsb'_ofBytes (low high : Byte) {start len : Nat} (inLow : start + len ≤ 8) :
    (ofBytes low high).extractLsb' start len = low.extractLsb' start len :=
  BitVec.extractLsb'_append_eq_of_add_le inLow

namespace VideoMemory

/-- The state of the video hardware agrees in all that is drawn. Memory that is cut off counts as
zero. -/
structure SamePicture (a b : VideoMemory) : Prop where
  io : ∀ offset : IoOffset, offset.drawn = true → a.io.readByte offset = b.io.readByte offset
  vram : ∀ offset, a.vram8 offset = b.vram8 offset
  palette : ∀ offset < 512, a.palette[offset]?.getD 0 = b.palette[offset]?.getD 0

namespace SamePicture

variable {a b : VideoMemory} (same : a.SamePicture b)

include same

/-! ## Registers -/

/-- A register of which both bytes are drawn from has the same value in both states, so whatever is
computed from it is the same. -/
theorem readHalf {offset : IoOffset}
    (drawn : offset.even.drawn = true ∧ offset.odd.drawn = true) :
    a.io.readHalf offset = b.io.readHalf offset := by
  rw [IoRegisters.readHalf, same.io _ drawn.1, same.io _ drawn.2, IoRegisters.readHalf]

/-- The display control is drawn from. Mode, page, enabled backgrounds and forced blank are fields
of it and follow from here. -/
theorem displayControl : a.displayControl = b.displayControl := same.readHalf (by decide)

/-- Both pictures are drawn in the same mode. -/
theorem mode : a.mode = b.mode := by
  rw [VideoMemory.mode, same.displayControl, VideoMemory.mode]

/-- The display is switched off for both or for neither. -/
theorem forcedBlank : a.forcedBlank = b.forcedBlank := by
  rw [VideoMemory.forcedBlank, same.displayControl, VideoMemory.forcedBlank]

/-- Both pictures show the same page of a bitmap. -/
theorem bitmapPage : a.bitmapPage = b.bitmapPage := by
  rw [VideoMemory.bitmapPage, same.displayControl, VideoMemory.bitmapPage]

/-- Each background has the same settings in both, since its control and its bit of the display
control are drawn from. -/
theorem background (index : Fin 4) : a.background index = b.background index := by
  have controls : ∀ index : Fin 4,
      (IoOffset.bg0cnt + BitVec.ofNat 10 (2 * index.val)).even.drawn = true ∧
        (IoOffset.bg0cnt + BitVec.ofNat 10 (2 * index.val)).odd.drawn = true := by
    decide +kernel
  rw [VideoMemory.background, same.readHalf (controls index), same.displayControl,
    VideoMemory.background]

/-- Each background is scrolled to the same point. -/
theorem scroll (index : Fin 4) : a.scroll index = b.scroll index := by
  have distances : ∀ (index : Fin 4) (i : Fin 4),
      (IoOffset.bg0hofs + BitVec.ofNat 10 (4 * index.val + i.val)).even.drawn = true ∧
        (IoOffset.bg0hofs + BitVec.ofNat 10 (4 * index.val + i.val)).odd.drawn = true := by
    decide +kernel
  have half (i : Nat) (inBlock : i < 4) := same.readHalf (distances index ⟨i, inBlock⟩)
  simp only [VideoMemory.scroll, half, Nat.reduceLT]

/-- An affine background has the same matrix and the same reference point. -/
theorem transform (index : Fin 4) : a.transform index = b.transform index := by
  have parameters : ∀ (index : Fin 4) (i : Fin 16),
      (IoOffset.bg2pa + BitVec.ofNat 10 (16 * (index.val - 2) + i.val)).even.drawn = true ∧
        (IoOffset.bg2pa + BitVec.ofNat 10 (16 * (index.val - 2) + i.val)).odd.drawn = true := by
    decide +kernel
  have half (i : Nat) (inBlock : i < 16) := same.readHalf (parameters index ⟨i, inBlock⟩)
  simp only [VideoMemory.transform, half, Nat.reduceAdd, Nat.reduceLT]

/-- The corners of the mosaic blocks of backgrounds are the same. Only the lower byte of the mosaic
register gives their size, the upper one is for objects. -/
theorem mosaicCorner (x y : Nat) : a.mosaicCorner x y = b.mosaicCorner x y := by
  have low : a.io.readByte IoOffset.mosaic.even = b.io.readByte IoOffset.mosaic.even :=
    same.io _ (by decide)
  simp only [VideoMemory.mosaicCorner, IoRegisters.readHalf,
    Half.extractLsb'_ofBytes _ _ (by decide : 0 + 4 ≤ 8),
    Half.extractLsb'_ofBytes _ _ (by decide : 4 + 4 ≤ 8), low]

/-! ## Memory -/

/-- A halfword of video memory is the same in both states. Past the end of either memory it is zero,
and so is a byte that is missing. -/
theorem vram16 (offset : Nat) : a.vram16 offset = b.vram16 offset := by
  rw [VideoMemory.vram16, same.vram, same.vram, VideoMemory.vram16]

/-- A tile has the same colour number at every point, in either depth of colour. -/
theorem tilePixel (base : Nat) (colors : ColorMode) (tile x y : Nat) :
    a.tilePixel base colors tile x y = b.tilePixel base colors tile x y := by
  simp only [VideoMemory.tilePixel, same.vram]

/-- The colours of backgrounds are the same. They are the first 256 of the palette, and the rest
belongs to objects, which are not drawn. -/
theorem paletteColor {index : Nat} (ofBackgrounds : index < 256) :
    a.paletteColor index = b.paletteColor index := by
  have entry : index % 512 = index := Nat.mod_eq_of_lt (by omega)
  rw [VideoMemory.paletteColor, VideoMemory.paletteColor, entry, same.palette _ (by omega),
    same.palette _ (by omega)]

/-- A colour number is a byte, and all colours with such a number are drawn from. -/
theorem paletteColor_byte (index : Byte) :
    a.paletteColor index.toNat = b.paletteColor index.toNat :=
  same.paletteColor index.isLt

omit same in
/-- A palette of sixteen colours is one of the first sixteen. -/
theorem bankedIndex_lt (video : VideoMemory) (bank : BitVec 4) (base tile x y : Nat) :
    bank.toNat * 16 + (video.tilePixel base .colors16 tile x y).toNat < 256 := by
  have inBank : (video.tilePixel base .colors16 tile x y).toNat < 16 := by
    rw [VideoMemory.tilePixel, BitVec.toNat_setWidth_of_le (by decide)]
    exact BitVec.isLt _
  have bound := bank.isLt
  omega

/-! ## Layers -/

/-- A map of tiles has the same colour at every point, wherever its tiles and its entries lie. -/
theorem textMapColor? (info : BackgroundInfo) (mapWidth x y : Nat) :
    a.textMapColor? info mapWidth x y = b.textMapColor? info mapWidth x y := by
  simp only [VideoMemory.textMapColor?, same.vram16, same.tilePixel]
  cases info.colorMode with
  | colors16 => simp only [same.paletteColor (bankedIndex_lt b _ _ _ _ _)]
  | colors256 => simp only [same.paletteColor_byte]

/-- An affine map has the same colour at every point, inside of the map and outside. -/
theorem affineMapColor? (info : BackgroundInfo) (x y : Int) :
    a.affineMapColor? info x y = b.affineMapColor? info x y := by
  simp only [VideoMemory.affineMapColor?, same.vram, same.tilePixel,
    same.paletteColor_byte]

/-- A bitmap has the same colour at every point. -/
theorem bitmapColor? (x y : Nat) : a.bitmapColor? x y = b.bitmapColor? x y := by
  simp only [VideoMemory.bitmapColor?, same.mode, same.bitmapPage, same.vram, same.vram16,
    same.paletteColor_byte]

/-- Every layer has the same colour at a point, whichever of the three kinds it is. Here the
pictures of tiles, maps and bitmaps come together. -/
theorem layerColor? (layer : Layer) (x y : Nat) :
    a.layerColor? layer x y = b.layerColor? layer x y := by
  cases kind : layer.kind <;>
    simp only [VideoMemory.layerColor?, kind, VideoMemory.textColor?, VideoMemory.affineColor?,
      same.scroll, same.transform, same.textMapColor?, same.affineMapColor?, same.bitmapColor?]

/-- A layer shows the same colour at every point of the screen, or nothing in both. -/
theorem visibleColor? (layer : Layer) (x y : Nat) :
    a.visibleColor? layer x y = b.visibleColor? layer x y := by
  simp only [VideoMemory.visibleColor?, same.mosaicCorner, same.layerColor?]

/-- The same layers are visible, in the same order, since which ones are enabled and how they are
ranked is told by registers that are drawn from. -/
theorem layers : a.layers = b.layers := by
  have layer? : a.layer? = b.layer? := by
    funext index
    simp only [VideoMemory.layer?, same.background, same.mode]
  rw [VideoMemory.layers, layer?, VideoMemory.layers]

/-! ## The frame -/

/-- A point of the screen has the same colour, that of the same layer or of the backdrop. -/
theorem pixel (layers : List Layer) (x y : Nat) : a.pixel layers x y = b.pixel layers x y := by
  simp only [VideoMemory.pixel, VideoMemory.compose, same.forcedBlank, same.visibleColor?,
    same.paletteColor (by decide : 0 < 256)]

/-- So the whole frames are the same: both are blank, or each point of the one has the colour of the
same point of the other. -/
theorem frame : a.frame = b.frame := by
  have pixels : a.pixel a.layers = b.pixel b.layers := by
    funext x y
    rw [same.layers, same.pixel]
  rw [VideoMemory.frame, pixels, VideoMemory.frame]

end SamePicture

/-! ## What is not drawn -/

variable (video : VideoMemory)

/-- Agreement in what is drawn from can be followed from state to state, so that changes to what is
not drawn can be made one after the other. -/
theorem SamePicture.trans {a b c : VideoMemory} (first : a.SamePicture b)
    (second : b.SamePicture c) : a.SamePicture c :=
  ⟨fun offset drawn => (first.io offset drawn).trans (second.io offset drawn),
    fun offset => (first.vram offset).trans (second.vram offset),
    fun offset ofBackgrounds =>
      (first.palette offset ofBackgrounds).trans (second.palette offset ofBackgrounds)⟩

/-- Storing a register byte that is not drawn from changes nothing that is. -/
theorem samePicture_storeByte {offset : IoOffset} (undrawn : offset.drawn = false) (value : Byte) :
    { video with io := video.io.storeByte offset value }.SamePicture video := by
  refine ⟨fun other drawn => ?_, fun _ => rfl, fun _ _ => rfl⟩
  have different : other ≠ offset := by
    rintro rfl
    exact absurd drawn (Bool.eq_false_iff.mp undrawn)
  exact (video.io.readByte_storeByte offset other value).trans (if_neg different)

/-- The colours of objects are not drawn. They begin at byte 512 of the palette, after those of the
backgrounds. -/
theorem samePicture_setPalette {offset : Nat} (ofObjects : 512 ≤ offset) (value : Byte) :
    { video with palette := video.palette.setIfInBounds offset value }.SamePicture video := by
  refine ⟨fun _ _ => rfl, fun _ => rfl, fun other ofBackgrounds => ?_⟩
  have different : offset ≠ other := by omega
  exact congrArg (Option.getD · 0) (Array.getElem?_setIfInBounds_ne different)

/-- Zeros behind a memory cannot be told from its end, past which zeros are read. -/
theorem getD_append_zeros (bytes : Array Byte) (count offset : Nat) :
    (bytes ++ Array.replicate count 0)[offset]?.getD 0 = bytes[offset]?.getD 0 := by
  rw [Array.getElem?_append]
  split
  · rfl
  · rw [Array.getElem?_replicate, Array.getElem?_eq_none (by omega)]
    split <;> rfl

/-- Memory that is cut off is drawn as if it went on with zeros. The end of neither video memory nor
the palette can be seen. -/
theorem samePicture_padded (tiles colors : Nat) :
    VideoMemory.SamePicture
      { video with
        vram := video.vram ++ Array.replicate tiles 0
        palette := video.palette ++ Array.replicate colors 0 } video :=
  ⟨fun _ _ => rfl, fun offset => getD_append_zeros _ _ offset,
    fun offset _ => getD_append_zeros _ _ offset⟩

/-! ## The bytes of a frame -/

/-- A point of the screen is opaque, whether a layer or the backdrop shows there, since no colour of
the hardware is transparent once it is drawn. -/
theorem alpha_pixel (layers : List Layer) (x y : Nat) :
    (video.pixel layers x y).alpha = 0xFF := by
  unfold pixel
  split <;> rfl

/-- The fourth byte of every pixel of a frame says that it is opaque, also when the display is
switched off. -/
theorem alpha_frame {i : Nat} (inside : i < screenWidth * screenHeight) :
    video.frame[4 * i + 3]? = some 0xFF := by
  have bytes := getElem?_flatMap_bytes (Vector.ofFn fun i : Fin (screenWidth * screenHeight) =>
    video.pixel video.layers (i.val % screenWidth) (i.val / screenWidth)) inside
    (by decide : 3 < 4)
  rw [Vector.getElem_ofFn, Nat.mul_comm i] at bytes
  exact bytes.trans (congrArg some (video.alpha_pixel _ _ _))

end VideoMemory

/-- The registers of the line, the keys and the interrupts. -/
def IoOffset.statusRegisters : List IoOffset :=
  [dispstat, vcount, keyinput, keycnt, interruptEnable, interruptFlags, masterEnable, haltcnt]

/-- The registers that the clock drives are not drawn from. -/
theorem IoOffset.undrawn_of_status : ∀ register ∈ statusRegisters,
    register.even.drawn = false ∧ register.odd.drawn = false := by
  simp only [statusRegisters, List.forall_mem_cons, List.not_mem_nil, false_implies, implies_true]
  decide

/-- A frame is determined by the registers that are drawn, by video memory and by the colours of
backgrounds; it is the same whatever the attributes and the colours of objects, the registers of
the line, the keys and the interrupts, and all registers without a use are. It has four bytes for
each point of the screen, the last of which says that it is opaque. -/
theorem VideoMemory.frame_determined :
    (∀ a b : VideoMemory, a.SamePicture b → a.frame = b.frame) ∧
      (∀ (bus : Bus) (oam : Vector Byte 0x400),
        (ofBus { bus with oam := oam }).frame = (ofBus bus).frame) ∧
      (∀ (video : VideoMemory) (offset : Nat) (value : Byte), 512 ≤ offset →
        { video with palette := video.palette.setIfInBounds offset value }.frame = video.frame) ∧
      (∀ (video : VideoMemory) (offset : IoOffset) (value : Byte), offset.drawn = false →
        { video with io := video.io.storeByte offset value }.frame = video.frame) ∧
      (∀ register ∈ IoOffset.statusRegisters,
        register.even.drawn = false ∧ register.odd.drawn = false) ∧
      ∀ video : VideoMemory, video.frame.toArray.size = 240 * 160 * 4 ∧
        ∀ i < 240 * 160, video.frame.toArray[4 * i + 3]? = some 0xFF := by
  refine ⟨fun _ _ same => same.frame, fun _ _ => rfl, ?_, ?_, IoOffset.undrawn_of_status, ?_⟩
  · exact fun video _ value ofObjects => (video.samePicture_setPalette ofObjects value).frame
  · exact fun video _ value undrawn => (video.samePicture_storeByte undrawn value).frame
  · exact fun video => ⟨video.frame.size_toArray, fun _ inside =>
      Vector.getElem?_toArray.trans (video.alpha_frame inside)⟩

/-- The screen with one red pixel, from memory that is cut off and from memory with zeros and with a
colour of objects after it, in different lines. -/
theorem VideoMemory.frame_determined_redPixel :
    let longer : VideoMemory :=
      { redPixel with
        vram := redPixel.vram ++ Array.replicate 8 0
        palette := redPixel.palette ++ Array.replicate 510 0 }
    let colored := { longer with palette := longer.palette.setIfInBounds 512 0x1F }
    let later := { colored with io := colored.io.storeByte .vcount 0x64 }
    later.io.readByte .vcount = 0x64 ∧ later.palette[512]? = some 0x1F ∧
      later.frame = redPixel.frame := by
  intro longer colored later
  have first : longer.SamePicture redPixel := redPixel.samePicture_padded 8 510
  have second : colored.SamePicture longer :=
    longer.samePicture_setPalette (Nat.le_refl 512) 0x1F
  have third : later.SamePicture colored := colored.samePicture_storeByte (by decide) 0x64
  have stored : later.palette[512]? = some 0x1F := by
    have long : redPixel.palette.size + 510 = 514 := rfl
    simp only [later, colored, longer, Array.getElem?_setIfInBounds, ↓reduceIte, Array.size_append,
      Array.size_replicate, long, Nat.reduceLT]
  refine ⟨?_, stored, frame_determined.1 later redPixel (third.trans (second.trans first))⟩
  exact (IoRegisters.readByte_storeByte _ _ _ _).trans (if_pos rfl)

end Handheld
