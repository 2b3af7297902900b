import Handheld.Proofs.Cpu.Banking

/-!
# The architectural register set

The register file shows what the architecture has: a register for every mode, in which modes share
some. `registerFile_refines_architecture` states what each operation does to the registers of all
modes and to the saved status registers.
-/

namespace Handheld.RegisterFile

/-- Every mode sees the same registers in both files. -/
def SameRegisters (before after : RegisterFile) : Prop :=
  ∀ mode r, after.banked mode r = before.banked mode r

/-- Every mode has the same saved status in both files. -/
def SameSaved (before after : RegisterFile) : Prop :=
  ∀ mode, after.savedStatus? mode = before.savedStatus? mode

/-- The visible registers are those of the current mode. -/
def ShowsCurrentMode (regs : RegisterFile) : Prop :=
  ∀ r, regs.get r = regs.banked regs.mode r

/-- The files differ in one register of a mode only, which holds `value` afterwards for exactly the
modes that share it. -/
def Writes (before after : RegisterFile) (owner : Mode) (written : RegNum) (value : Word) : Prop :=
  ∀ mode r, after.banked mode r =
    if r = written ∧ owner.Shares mode written then value else before.banked mode r

/-- The banked register file refines the architectural register set. Changes of mode and of the
status leave every register of every mode and every saved status alone and show the registers of
the new mode; a write changes one register for the modes that share it; a write of the saved
status changes the current mode's alone; and taking an exception changes the link register and the
saved status of its target mode, `r15` and the current status. -/
theorem registerFile_refines_architecture (regs : RegisterFile) :
    (∀ target, (regs.switchMode target).mode = target ∧
      SameRegisters regs (regs.switchMode target) ∧ SameSaved regs (regs.switchMode target) ∧
        ShowsCurrentMode (regs.switchMode target)) ∧
    (∀ status, (regs.setCpsr status).mode =
        (Mode.ofBits? (Status.modeField status)).getD regs.mode ∧
      SameRegisters regs (regs.setCpsr status) ∧ SameSaved regs (regs.setCpsr status) ∧
        ShowsCurrentMode (regs.setCpsr status)) ∧
    (∀ r value, Writes regs (regs.set r value) regs.mode r value ∧
      SameSaved regs (regs.set r value) ∧ (regs.set r value).cpsr = regs.cpsr) ∧
    (∀ r value, Writes regs (regs.setUserRegister r value) .user r value ∧
      SameSaved regs (regs.setUserRegister r value) ∧
        (regs.setUserRegister r value).cpsr = regs.cpsr) ∧
    (∀ status, SameRegisters regs (regs.setSpsr status) ∧
      (regs.setSpsr status).cpsr = regs.cpsr ∧
      ∀ mode, (regs.setSpsr status).savedStatus? mode =
        if mode = regs.mode then (regs.savedStatus? mode).map fun _ => status
        else regs.savedStatus? mode) ∧
    (∀ e : Exception,
      (∀ mode r, r ≠ .pc → ¬ (mode = e.targetMode ∧ r = .lr) →
        (regs.enterException e).banked mode r = regs.banked mode r) ∧
      (∀ mode, mode ≠ e.targetMode →
        (regs.enterException e).savedStatus? mode = regs.savedStatus? mode) ∧
      (regs.enterException e).banked e.targetMode .lr = regs.pc + e.linkOffset ∧
      (regs.enterException e).savedStatus? e.targetMode = some regs.cpsr ∧
      (regs.enterException e).pc = e.vector ∧
      (regs.enterException e).mode = e.targetMode) := by
  have shows : ∀ file : RegisterFile, ShowsCurrentMode file := fun file r =>
    (banked_mode file r).symm
  refine ⟨?_, ?_, ?_, ?_, ?_, ?_⟩
  · intro target
    exact ⟨mode_switchMode regs target, banked_switchMode regs target,
      savedStatus?_switchMode regs target, shows _⟩
  · intro status
    exact ⟨mode_setCpsr regs status, banked_setCpsr regs status, savedStatus?_setCpsr regs status,
      shows _⟩
  · intro written value
    refine ⟨fun mode r => ?_, savedStatus?_set regs written value, rfl⟩
    rw [banked_set]
    simp only [sharedBy_iff]
  · intro written value
    refine ⟨fun mode r => ?_, savedStatus?_setUserRegister regs written value,
      cpsr_setUserRegister regs written value⟩
    rw [banked_setUserRegister]
    simp only [sharedBy_iff]
  · intro status
    exact ⟨banked_setSpsr regs status, cpsr_setSpsr regs status,
      savedStatus?_setSpsr regs status⟩
  · intro e
    refine ⟨fun mode r notPc other => ?_, fun mode other => ?_, ?_, ?_, pc_enterException regs e,
      mode_enterException regs e⟩
    · rw [banked_enterException regs e mode notPc, if_neg fun both => other ⟨both.2, both.1⟩]
    · rw [savedStatus?_enterException, if_neg other]
    · rw [banked_enterException regs e e.targetMode (by decide), if_pos ⟨rfl, rfl⟩]
    · rw [savedStatus?_enterException, if_pos rfl]

end Handheld.RegisterFile
