import Handheld.Video.Frame
import Mathlib.Data.List.Sort

/-!
# The order of layers

The visible layers are sorted, the frontmost first (`VideoMemory.pairwise_layers`), so that the
first of them with a colour is in front of every other layer with a colour
(`VideoMemory.exists_frontmost`).
-/

namespace Handheld

namespace VideoMemory

variable (video : VideoMemory)

/-- Whether a layer is drawn in front of another, or is the same. -/
def InFront (a b : Layer) : Prop := inFront a b = true

instance : DecidableRel InFront := fun a b => inferInstanceAs (Decidable (inFront a b = true))

theorem inFront_iff (a b : Layer) :
    InFront a b ↔ a.info.priority < b.info.priority ∨
      a.info.priority = b.info.priority ∧ a.index ≤ b.index := by
  simp only [InFront, inFront, Bool.or_eq_true, Bool.and_eq_true, decide_eq_true_eq, beq_iff_eq]

instance : Std.Total InFront where
  total a b := by
    simp only [inFront_iff]
    bv_omega

instance : IsTrans Layer InFront where
  trans a b c first second := by
    simp only [inFront_iff] at first second ⊢
    bv_omega

theorem insertLayer_eq_orderedInsert (layer : Layer) (layers : List Layer) :
    insertLayer layer layers = layers.orderedInsert InFront layer := by
  induction layers with
  | nil => rfl
  | cons next rest ih =>
      rw [insertLayer, List.orderedInsert_cons, ih]
      rfl

/-- Layers are sorted by insertion. -/
theorem layers_eq_insertionSort :
    video.layers = ((List.finRange 4).filterMap video.layer?).insertionSort InFront := by
  have insert : insertLayer = List.orderedInsert InFront := funext₂ insertLayer_eq_orderedInsert
  rw [layers, insert, List.insertionSort]

theorem layer?_eq_some_iff (index : Fin 4) (layer : Layer) :
    video.layer? index = some layer ↔
      ∃ kind, layerKind? video.mode index = some kind ∧
        (video.background index).enabled = true ∧
        layer = ⟨index, kind, video.background index⟩ := by
  unfold layer?
  cases layerKind? video.mode index with
  | none => simp
  | some kind =>
      by_cases enabled : (video.background index).enabled = true
      · simp [enabled, eq_comm]
      · simp [enabled]

theorem mem_layers (layer : Layer) :
    layer ∈ video.layers ↔ ∃ index, video.layer? index = some layer := by
  simp only [layers_eq_insertionSort, List.mem_insertionSort, List.mem_filterMap,
    List.mem_finRange, true_and]

theorem pairwise_layers : video.layers.Pairwise InFront := by
  rw [layers_eq_insertionSort]
  exact List.pairwise_insertionSort _ _

variable {video} in
/-- The first layer with a colour is the frontmost of those that have one, since the layers are
sorted from front to back. -/
theorem exists_frontmost {Color : Type} {color? : Layer → Option Color} {color : Color}
    (found : video.layers.findSome? color? = some color) :
    ∃ front ∈ video.layers, color? front = some color ∧
      ∀ other ∈ video.layers, color? other ≠ none → InFront front other := by
  obtain ⟨before, front, behind, split, colored, clear⟩ := List.findSome?_eq_some_iff.mp found
  have sorted := video.pairwise_layers
  rw [split, List.pairwise_append, List.pairwise_cons] at sorted
  obtain ⟨-, ⟨frontmost, -⟩, -⟩ := sorted
  refine ⟨front, by simp [split], colored, ?_⟩
  intro other member shown
  rw [split, List.mem_append, List.mem_cons] at member
  rcases member with inBefore | rfl | inBehind
  · exact absurd (clear other inBefore) shown
  · exact (Std.Total.total other other).elim id id
  · exact frontmost other inBehind

end VideoMemory

end Handheld
