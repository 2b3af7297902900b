import Handheld.Proofs.Video.MapPoint
import Handheld.Proofs.Video.Picture

/-!
# Frames and the views of their layers

A background that is drawn from a map can be looked at in two ways: in the frame, scrolled or
transformed and hidden by others, and as a picture of its whole map. At every point, the frame shows
the pixel that the frontmost of the backgrounds has in its picture, at the point of its own map
(`VideoMemory.frame_agrees_with_maps`).
-/

namespace Handheld

namespace VideoMemory

variable (video : VideoMemory)

/-- A background that the display control shows has an opaque pixel at a point of the screen, in
the picture of its map. -/
def Shows (x y : Nat) (index : Fin 4) (pixel : Rgba) : Prop :=
  (video.background index).enabled = true ∧
    ∃ picture point,
      video.backgroundMap? index = some picture ∧
      video.mapPoint? index x y = some point ∧
      pixelAt? picture.bytes picture.width point.1 point.2 = some pixel ∧ pixel.alpha = 0xFF

/-! ## Pictures of maps -/

/-- The picture of a map has the colours of the map at every point that the screen can show. -/
theorem pixelAt?_backgroundMap {index : Fin 4} {picture : Picture} {point : Nat × Nat} {x y : Nat}
    (drawn : video.backgroundMap? index = some picture)
    (shown : video.mapPoint? index x y = some point) :
    pixelAt? picture.bytes picture.width point.1 point.2 =
      some (pixelOf (video.mapColor? index point.1 point.2)) := by
  rw [backgroundMap?, dif_pos index.isLt] at drawn
  unfold layerMap? at drawn
  unfold mapPoint? at shown
  unfold mapColor?
  cases drawnAs : layerKind? video.mode index with
  | none =>
      rw [drawnAs] at drawn
      cases drawn
  | some kind =>
      simp only [drawnAs] at drawn shown ⊢
      cases kind with
      | text =>
          cases drawn
          cases shown
          exact Picture.pixelAt?_ofPixels _ (Nat.mod_lt _ (ScreenSize.textWidth_pos _))
            (Nat.mod_lt _ (ScreenSize.textHeight_pos _))
      | affine =>
          cases drawn
          obtain ⟨inRow, inColumn⟩ := planePoint?_lt (ScreenSize.affineSide_pos _) shown
          exact Picture.pixelAt?_ofPixels _ inRow inColumn
      | bitmap => cases drawn

/-- Every background that the mode has a picture for has a map, apart from the bitmaps of the higher
modes. -/
theorem isSome_backgroundMap? (index : Fin 4) :
    (video.backgroundMap? index).isSome = true ↔
      ∃ kind, layerKind? video.mode index = some kind ∧ kind ≠ .bitmap := by
  rw [backgroundMap?, dif_pos index.isLt, layerMap?]
  cases layerKind? video.mode index with
  | none => simp
  | some kind => cases kind <;> simp

/-- Only colours are opaque. -/
theorem alpha_pixelOf (color? : Option Half) :
    (pixelOf color?).alpha = 0xFF ↔ color?.isSome = true := by
  cases color? with
  | none => decide
  | some color => simp [pixelOf, Rgba.ofColor]

/-- A background shows the pixel of the colour that its layer has, if it is drawn at all and has a
colour there. -/
theorem shows_iff (tiled : video.mode.toNat ≤ 2) (x y : Nat) (index : Fin 4) (pixel : Rgba) :
    video.Shows x y index pixel ↔
      ∃ layer color, video.layer? index = some layer ∧
        video.visibleColor? layer x y = some color ∧ pixel = Rgba.ofColor color := by
  constructor
  · rintro ⟨enabled, picture, point, map, shown, atPoint, opaquePixel⟩
    obtain ⟨kind, drawn, -⟩ :=
      (video.isSome_backgroundMap? index).mp (Option.isSome_iff_exists.mpr ⟨picture, map⟩)
    have visible : video.layer? index = some ⟨index, kind, video.background index⟩ :=
      (video.layer?_eq_some_iff index _).mpr ⟨kind, drawn, enabled, rfl⟩
    rw [video.pixelAt?_backgroundMap map shown, Option.some_inj] at atPoint
    subst atPoint
    obtain ⟨color, colored⟩ := Option.isSome_iff_exists.mp ((alpha_pixelOf _).mp opaquePixel)
    refine ⟨_, color, visible, ?_, ?_⟩
    · rw [video.visibleColor?_eq tiled visible, shown, Option.bind_some, colored]
    · rw [colored]
      rfl
  · rintro ⟨layer, color, visible, colored, rfl⟩
    obtain ⟨kind, drawn, enabled, -⟩ := (video.layer?_eq_some_iff index layer).mp visible
    rw [video.visibleColor?_eq tiled visible, Option.bind_eq_some_iff] at colored
    obtain ⟨point, shown, colored⟩ := colored
    obtain ⟨picture, map⟩ := Option.isSome_iff_exists.mp
      ((video.isSome_backgroundMap? index).mpr ⟨kind, drawn, layerKind?_ne_bitmap tiled drawn⟩)
    refine ⟨enabled, picture, point, map, shown, ?_, rfl⟩
    rw [video.pixelAt?_backgroundMap map shown, colored]
    rfl

/-- The frame shows, at every point, the pixel that the frontmost of the backgrounds with an opaque
pixel has in the picture of its map; and the first colour of the palette where there is none. -/
theorem frame_agrees_with_maps (on : video.forcedBlank = false) (tiled : video.mode.toNat ≤ 2)
    {x y : Nat} (inRow : x < 240) (inColumn : y < 160) :
    (∃ front pixel, video.Shows x y front pixel ∧
      (∀ other otherPixel, video.Shows x y other otherPixel →
        (video.background front).priority < (video.background other).priority ∨
          (video.background front).priority = (video.background other).priority ∧
            front ≤ other) ∧
      pixelAt? video.frame 240 x y = some pixel) ∨
    ((∀ index pixel, ¬ video.Shows x y index pixel) ∧
      pixelAt? video.frame 240 x y = some (Rgba.ofColor (video.paletteColor 0))) := by
  have drawn : pixelAt? video.frame 240 x y =
      some (Rgba.ofColor ((video.layers.findSome? fun layer =>
        video.visibleColor? layer x y).getD (video.paletteColor 0))) := by
    refine (video.pixelAt?_frame inRow inColumn).trans ?_
    simp only [pixel, on, compose, Bool.false_eq_true, ↓reduceIte]
  rw [drawn]
  cases found : video.layers.findSome? fun layer => video.visibleColor? layer x y with
  | none =>
      right
      refine ⟨?_, rfl⟩
      intro index pixel shows
      obtain ⟨layer, color, visible, colored, -⟩ := (video.shows_iff tiled x y index pixel).mp shows
      have member : layer ∈ video.layers := (video.mem_layers layer).mpr ⟨index, visible⟩
      rw [List.findSome?_eq_none_iff.mp found layer member] at colored
      cases colored
  | some color =>
      left
      obtain ⟨front, member, colored, frontmost⟩ := exists_frontmost found
      obtain ⟨index, visible⟩ := (video.mem_layers front).mp member
      refine ⟨index, Rgba.ofColor color,
        (video.shows_iff tiled x y index _).mpr ⟨front, color, visible, colored, rfl⟩, ?_, rfl⟩
      intro other otherPixel shows
      obtain ⟨layer, otherColor, otherVisible, otherColored, -⟩ :=
        (video.shows_iff tiled x y other otherPixel).mp shows
      have otherMember : layer ∈ video.layers := (video.mem_layers layer).mpr ⟨other, otherVisible⟩
      have ordered : InFront front layer :=
        frontmost layer otherMember (by rw [otherColored]; exact Option.some_ne_none _)
      obtain ⟨_, -, -, rfl⟩ := (video.layer?_eq_some_iff index front).mp visible
      obtain ⟨_, -, -, rfl⟩ := (video.layer?_eq_some_iff other layer).mp otherVisible
      exact (inFront_iff _ _).mp ordered

/-- A layer shows at most one colour at a pixel, since it samples one point of its map there. -/
theorem Shows.eq {video : VideoMemory} {x y : Nat} {index : Fin 4} {pixel other : Rgba}
    (first : video.Shows x y index pixel) (second : video.Shows x y index other) :
    pixel = other := by
  obtain ⟨-, picture, point, map, shown, atPoint, -⟩ := first
  obtain ⟨-, otherPicture, otherPoint, otherMap, otherShown, otherAtPoint, -⟩ := second
  rw [map, Option.some_inj] at otherMap
  rw [shown, Option.some_inj] at otherShown
  subst otherMap otherShown
  rw [atPoint, Option.some_inj] at otherAtPoint
  exact otherAtPoint

/-- A screen with the first background alone, whose first pixel is red. -/
def redPixel : VideoMemory where
  io := IoRegisters.powerOn.storeHalf .dispcnt 0x100
  vram := #[1] ++ Array.replicate 31 0 ++ #[1]
  palette := #[0, 0, 0x1F, 0]

/-- The frame of this screen has the red of its first tile at the first pixel. The background that
is in front there can only be the one that is drawn, and of it the map shows this colour. -/
theorem redPixel_agrees_with_map :
    redPixel.forcedBlank = false ∧ redPixel.mode.toNat ≤ 2 ∧
      redPixel.Shows 0 0 0 ⟨0xFF, 0, 0, 0xFF⟩ ∧
      pixelAt? redPixel.frame 240 0 0 = some ⟨0xFF, 0, 0, 0xFF⟩ := by
  have on : redPixel.forcedBlank = false := by decide +kernel
  have tiled : redPixel.mode.toNat ≤ 2 := by decide +kernel
  have only : ∀ index, (redPixel.background index).enabled = true → index = 0 := by decide +kernel
  have layer : redPixel.layer? 0 = some ⟨0, .text, redPixel.background 0⟩ := by decide +kernel
  have colored : redPixel.visibleColor? ⟨0, .text, redPixel.background 0⟩ 0 0 = some 0x1F := by
    decide +kernel
  have shows : redPixel.Shows 0 0 0 ⟨0xFF, 0, 0, 0xFF⟩ :=
    (redPixel.shows_iff tiled 0 0 0 _).mpr ⟨_, _, layer, colored, by decide⟩
  refine ⟨on, tiled, shows, ?_⟩
  rcases frame_agrees_with_maps redPixel on tiled (by decide : 0 < 240) (by decide : 0 < 160) with
    ⟨front, pixel, shown, -, drawn⟩ | ⟨nothing, -⟩
  · obtain rfl := only front shown.1
    rw [drawn, shown.eq shows]
  · exact absurd shows (nothing 0 _)

end VideoMemory

end Handheld
