import Handheld.Proofs.Cpu.Banking

/-!
# Changes of visible registers

An instruction that neither changes the status nor the mode changes a few of the visible registers
and nothing else (`RegisterFile.ChangedOnly`). Such changes compose, and every register that is not
among the changed ones keeps its value in every mode.
-/

namespace Handheld.RegisterFile

/-- Two register files that differ in the values of some visible registers only. -/
structure ChangedOnly (changed : List RegNum) (before after : RegisterFile) : Prop where
  stored : after = { before with visible := after.visible }
  kept : ∀ r, r ∉ changed → after.get r = before.get r

namespace ChangedOnly

variable {changed later : List RegNum} {before between after : RegisterFile}

/-- Nothing has changed. -/
theorem refl (regs : RegisterFile) : ChangedOnly [] regs regs :=
  ⟨rfl, fun _ _ => rfl⟩

/-- Two changes in a row have changed at most what one of them did, so the lists of registers are
put together. -/
theorem trans (first : ChangedOnly changed before between)
    (second : ChangedOnly later between after) : ChangedOnly (changed ++ later) before after := by
  refine ⟨?_, ?_⟩
  · have stored := second.stored
    rw [first.stored] at stored
    exact stored
  · intro r notChanged
    rw [List.mem_append, not_or] at notChanged
    rw [second.kept r notChanged.2, first.kept r notChanged.1]

/-- More registers may be allowed to change. -/
theorem mono (changes : ChangedOnly changed before after) (more : ∀ r ∈ changed, r ∈ later) :
    ChangedOnly later before after :=
  ⟨changes.stored, fun r notChanged => changes.kept r (mt (more r) notChanged)⟩

/-- Writing a register changes at most this one, in the bank of the current mode. -/
theorem set (regs : RegisterFile) (r : RegNum) (value : Word) :
    ChangedOnly [r] regs (regs.set r value) :=
  ⟨rfl, fun _ notChanged => regs.get_set_of_ne (mt List.mem_singleton.mpr notChanged) value⟩

/-- The status is not a register that changes here. -/
theorem cpsr (changes : ChangedOnly changed before after) : after.cpsr = before.cpsr := by
  rw [changes.stored]

/-- So the mode stays, -/
theorem mode (changes : ChangedOnly changed before after) : after.mode = before.mode := by
  rw [changes.stored]
  rfl

/-- every flag stays, -/
theorem flag (changes : ChangedOnly changed before after) (mask : Word) :
    after.flag mask = before.flag mask := by
  rw [RegisterFile.flag, RegisterFile.flag, changes.cpsr]

/-- and so does the instruction set. -/
theorem thumb (changes : ChangedOnly changed before after) : after.thumb = before.thumb :=
  changes.flag Status.thumb

/-- A saved status is not a register either. -/
theorem savedStatus? (changes : ChangedOnly changed before after) (mode : Mode) :
    after.savedStatus? mode = before.savedStatus? mode := by
  rw [changes.stored]
  rfl

/-- A register that the current mode does not share is kept, whatever is changed, as changes are
made to visible registers only. -/
theorem banked_of_apart (changes : ChangedOnly changed before after) {mode : Mode} {r : RegNum}
    (apart : ¬ sharedBy before.mode mode r = true) :
    after.banked mode r = before.banked mode r := by
  have apartAfter : ¬ sharedBy after.mode mode r = true := by
    rw [changes.mode]
    exact apart
  have notCommon : ¬ (r.val < 8 ∨ r = .pc) := fun common => apart (sharedBy_common common _ _)
  have shared : after.sharedHigh = before.sharedHigh := by rw [changes.stored]
  have fiq : after.fiqHigh = before.fiqHigh := by rw [changes.stored]
  have links : after.stackLinks = before.stackLinks := by rw [changes.stored]
  rw [after.banked_of_private apartAfter, before.banked_of_private apart]
  exact slot_of_storage shared fiq links notCommon mode

/-- A register that is not changed is kept in every mode, whether this mode shares it with the
current one or not. -/
theorem banked (changes : ChangedOnly changed before after) (mode : Mode) {r : RegNum}
    (notChanged : r ∉ changed) : after.banked mode r = before.banked mode r := by
  by_cases shared : sharedBy before.mode mode r = true
  · have sharedAfter : sharedBy after.mode mode r = true := by
      rw [changes.mode]
      exact shared
    rw [after.banked_of_shared sharedAfter, before.banked_of_shared shared,
      changes.kept r notChanged]
  · exact changes.banked_of_apart shared

/-- Two files that differ from one in visible registers only are the same if these are, so that it
is enough to compare sixteen values. -/
theorem eq_of_get {other : RegisterFile} (changes : ChangedOnly changed before after)
    (others : ChangedOnly later before other) (same : ∀ r, after.get r = other.get r) :
    after = other := by
  have visible : after.visible = other.visible := Vector.ext fun i bound => same ⟨i, bound⟩
  calc after = { before with visible := after.visible } := changes.stored
    _ = { before with visible := other.visible } := by rw [visible]
    _ = other := others.stored.symm

end ChangedOnly

end Handheld.RegisterFile
