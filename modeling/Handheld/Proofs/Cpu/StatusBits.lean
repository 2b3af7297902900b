import Handheld.Cpu.Status

/-!
# Bits of a status word

A status word is read and changed under masks, and by replacing its mode field. A change under one
mask leaves what is read under a disjoint mask alone (`or_and_of_disjoint`,
`clear_and_of_disjoint`), and a word with a replaced mode field names the mode that was put there
(`modeField_withMode`).
-/

namespace Handheld

namespace Mode

/-- A field names a mode only if it is that mode's field. -/
theorem ofBits?_eq_some {field : BitVec 5} {mode : Mode} (named : ofBits? field = some mode) :
    field = mode.bits := by
  unfold ofBits? at named
  split at named <;> cases named <;> rfl

/-- User and System are the only modes that share a bank. -/
theorem bank_eq_iff (a b : Mode) :
    a.bank = b.bank ↔ a = b ∨ (a = .user ∧ b = .system) ∨ (a = .system ∧ b = .user) := by
  cases a <;> cases b <;> decide

end Mode

namespace Status

variable {mask other : Word}

/-- Setting bits outside a mask does not change what is read under it, so the fields of a status can
be set one by one. -/
theorem or_and_of_disjoint (disjoint : mask &&& other = 0) (status : Word) :
    (status ||| other) &&& mask = status &&& mask := by
  ext i bound
  have bits := congrArg (·[i]) disjoint
  simp only [BitVec.getElem_and, BitVec.getElem_or, BitVec.ofNat_eq_ofNat,
    BitVec.getElem_zero] at bits ⊢
  cases inside : mask[i] with
  | false => simp only [Bool.and_false]
  | true =>
      rw [inside, Bool.true_and] at bits
      simp only [bits, Bool.or_false]

/-- Clearing bits outside a mask does not change what is read under it. Together with setting this
is every change of a flag. -/
theorem clear_and_of_disjoint (disjoint : mask &&& other = 0) (status : Word) :
    (status &&& ~~~other) &&& mask = status &&& mask := by
  ext i bound
  have bits := congrArg (·[i]) disjoint
  simp only [BitVec.getElem_and, BitVec.getElem_not, BitVec.ofNat_eq_ofNat,
    BitVec.getElem_zero] at bits ⊢
  cases inside : mask[i] with
  | false => simp only [Bool.and_false]
  | true =>
      rw [inside, Bool.true_and] at bits
      simp only [bits, Bool.not_false, Bool.and_true]

/-- Words that agree under a mask agree under each part of it. -/
theorem and_eq_and_of_part {a b : Word} (same : a &&& mask = b &&& mask)
    (part : mask &&& other = other) : a &&& other = b &&& other := by
  rw [← part, ← BitVec.and_assoc, ← BitVec.and_assoc, same]

/-- A mask is disjoint from every part of what it is disjoint from. -/
theorem and_and_of_disjoint (disjoint : mask &&& other = 0) (value : Word) :
    mask &&& (value &&& other) = 0 := by
  rw [BitVec.and_comm value, ← BitVec.and_assoc, disjoint]
  exact BitVec.zero_and

theorem getLsbD_modeMask (i : Fin 32) : modeMask.getLsbD i = decide (i.val < 5) := by
  revert i
  decide

/-- The mode field depends on the five mode bits only. -/
theorem modeField_eq_masked (status : Word) :
    modeField status = modeField (status &&& modeMask) := by
  have full : BitVec.extractLsb' 0 5 modeMask = BitVec.allOnes 5 := by decide
  simp only [modeField, BitVec.extractLsb'_and, full, BitVec.and_allOnes]

theorem modeField_congr {a b : Word} (same : a &&& modeMask = b &&& modeMask) :
    modeField a = modeField b := by
  rw [modeField_eq_masked a, modeField_eq_masked b, same]

@[simp] theorem modeField_withMode (status : Word) (mode : Mode) :
    modeField (withMode status mode) = mode.bits := by
  have cleared : BitVec.extractLsb' 0 5 (~~~modeMask) = 0 := by decide
  have kept : BitVec.extractLsb' 0 5 (mode.bits.setWidth 32) = mode.bits := by
    cases mode <;> decide
  simp only [modeField, withMode, BitVec.extractLsb'_or, BitVec.extractLsb'_and, cleared, kept,
    BitVec.ofNat_eq_ofNat, BitVec.and_zero, BitVec.zero_or]

/-- Replacing the mode field leaves the other bits alone. -/
theorem withMode_and (disjoint : mask &&& modeMask = 0) (status : Word) (mode : Mode) :
    withMode status mode &&& mask = status &&& mask := by
  have inMask : modeMask &&& mode.bits.setWidth 32 = mode.bits.setWidth 32 := by
    cases mode <;> decide
  have outside : mask &&& mode.bits.setWidth 32 = 0 := by
    rw [← inMask, BitVec.and_comm modeMask]
    exact and_and_of_disjoint disjoint _
  rw [withMode, or_and_of_disjoint outside, clear_and_of_disjoint disjoint]

/-- Putting the mode a word already names into its mode field changes nothing, so a valid status is
taken as it is. -/
theorem withMode_eq_self {status : Word} {mode : Mode}
    (named : Mode.ofBits? (modeField status) = some mode) : withMode status mode = status := by
  have field : mode.bits.setWidth 32 = status &&& modeMask := by
    rw [← Mode.ofBits?_eq_some named]
    ext i bound
    rw [BitVec.getElem_setWidth, modeField, BitVec.getLsbD_extractLsb', BitVec.getElem_and,
      ← BitVec.getLsbD_eq_getElem bound, ← BitVec.getLsbD_eq_getElem bound,
      getLsbD_modeMask ⟨i, bound⟩, Nat.zero_add, Bool.and_comm]
  rw [withMode, field, ← BitVec.and_or_distrib_left, BitVec.or_comm]
  have covered : modeMask ||| ~~~modeMask = BitVec.allOnes 32 := by decide
  rw [covered, BitVec.and_allOnes]

end Status

end Handheld
