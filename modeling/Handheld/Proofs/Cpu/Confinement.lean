import Handheld.Proofs.Arm.WellFormed
import Handheld.Proofs.Cpu.Changes

/-!
# Programs of User mode are confined

No instruction that is executed in User mode reaches what belongs to the privileged modes: the mode
and the interrupt masks, the saved statuses, and the registers that User mode does not share
(`RegisterFile.KeepsPrivileged`). The one way out is an exception that the program raises, which
goes to its vector (`RegisterFile.Enters`).
-/

namespace Handheld

/-- The registers that a mode has and User mode has not. -/
def Mode.Owns (mode : Mode) (r : RegNum) : Prop :=
  (mode = .fiq ∧ 8 ≤ r.val ∧ r.val ≤ 12) ∨
    (mode ≠ .user ∧ mode ≠ .system ∧ (r = .sp ∨ r = .lr))

instance (mode : Mode) (r : RegNum) : Decidable (mode.Owns r) :=
  inferInstanceAs (Decidable (_ ∨ _))

/-- No mode has a program counter of its own. -/
theorem Mode.Owns.ne_pc {mode : Mode} {r : RegNum} (owns : mode.Owns r) : r ≠ .pc := by
  rintro rfl
  revert owns
  cases mode <;> decide

namespace RegisterFile

/-- What a mode owns it does not share with User mode. -/
theorem sharedBy_user_of_owns {mode : Mode} {r : RegNum} (owns : mode.Owns r) :
    ¬ sharedBy .user mode r = true := by
  revert r
  cases mode <;> decide

/-- The status names User mode. -/
def InUserMode (regs : RegisterFile) : Prop := Status.modeField regs.cpsr = Mode.user.bits

/-- The mode of a status that names User mode is User mode. -/
theorem InUserMode.mode {regs : RegisterFile} (user : regs.InUserMode) : regs.mode = .user := by
  rw [RegisterFile.mode, user, Mode.ofBits?_bits, Option.getD_some]

/-- What belongs to the privileged modes is the same in both files: the mode field and the interrupt
masks, every saved status, and every register that User mode does not share. -/
structure KeepsPrivileged (before after : RegisterFile) : Prop where
  status : after.cpsr &&& Status.privilegedMask = before.cpsr &&& Status.privilegedMask
  saved : ∀ mode, after.savedStatus? mode = before.savedStatus? mode
  registers : ∀ (mode : Mode) r, mode.Owns r → after.banked mode r = before.banked mode r

namespace KeepsPrivileged

variable {a b c regs : RegisterFile}

theorem refl (regs : RegisterFile) : KeepsPrivileged regs regs :=
  ⟨rfl, fun _ => rfl, fun _ _ _ => rfl⟩

theorem trans (first : KeepsPrivileged a b) (second : KeepsPrivileged b c) :
    KeepsPrivileged a c where
  status := second.status.trans first.status
  saved mode := (second.saved mode).trans (first.saved mode)
  registers mode r owns := (second.registers mode r owns).trans (first.registers mode r owns)

/-- Masks among the privileged bits read the same. -/
theorem cpsr_and (keeps : KeepsPrivileged a b) {mask : Word}
    (privileged : Status.privilegedMask &&& mask = mask) : b.cpsr &&& mask = a.cpsr &&& mask :=
  Status.and_eq_and_of_part keeps.status privileged

/-- A file that keeps what is privileged stays in User mode, since the mode field is privileged. -/
theorem inUserMode (keeps : KeepsPrivileged a b) (user : a.InUserMode) : b.InUserMode :=
  (Status.modeField_congr (keeps.cpsr_and (by decide))).trans user

/-- In User mode a register is written in the bank of User mode, which shares nothing with what the
privileged modes own. -/
theorem set (user : regs.mode = .user) (r : RegNum) (value : Word) :
    KeepsPrivileged regs (regs.set r value) where
  status := rfl
  saved := regs.savedStatus?_set r value
  registers mode other owns := by
    have apart : ¬ (other = r ∧ sharedBy regs.mode mode r = true) := by
      rintro ⟨rfl, shared⟩
      rw [user] at shared
      exact sharedBy_user_of_owns owns shared
    rw [banked_set, if_neg apart]

/-- The transfer of user registers reaches the bank of User mode from any mode, and so nothing that
is privileged. -/
theorem setUserRegister (regs : RegisterFile) (r : RegNum) (value : Word) :
    KeepsPrivileged regs (regs.setUserRegister r value) where
  status := by rw [cpsr_setUserRegister]
  saved := regs.savedStatus?_setUserRegister r value
  registers mode other owns := by
    have apart : ¬ (other = r ∧ sharedBy .user mode r = true) := by
      rintro ⟨rfl, shared⟩
      exact sharedBy_user_of_owns owns shared
    rw [banked_setUserRegister, if_neg apart]

/-- Flags can be set, as long as they are not privileged. The condition flags are not, the interrupt
masks are. -/
theorem setFlag (regs : RegisterFile) {mask : Word}
    (unprivileged : Status.privilegedMask &&& mask = 0) (value : Bool) :
    KeepsPrivileged regs (regs.setFlag mask value) where
  status := regs.cpsr_setFlag_and unprivileged value
  saved := regs.savedStatus?_setFlag mask value
  registers mode r _ := by
    have inPrivileged : Status.modeMask = Status.modeMask &&& Status.privilegedMask := by decide
    have outside : Status.modeMask &&& mask = 0 := by
      rw [inPrivileged, BitVec.and_assoc, unprivileged]
      exact BitVec.and_zero
    exact regs.banked_setFlag outside value mode r

/-- A new status that agrees with the old one in the privileged bits keeps what is privileged. The
mode is the same, so no bank is changed. -/
theorem setCpsr {status : Word} (user : regs.InUserMode)
    (same : status &&& Status.privilegedMask = regs.cpsr &&& Status.privilegedMask) :
    KeepsPrivileged regs (regs.setCpsr status) where
  status := by
    have field : Status.modeField status = Mode.user.bits :=
      (Status.modeField_congr (Status.and_eq_and_of_part same (by decide))).trans user
    have named : Mode.ofBits? (Status.modeField status) = some .user := by
      rw [field, Mode.ofBits?_bits]
    rw [regs.cpsr_setCpsr named, same]
  saved := regs.savedStatus?_setCpsr status
  registers mode r _ := regs.banked_setCpsr status mode r

end KeepsPrivileged

/-- User mode has no saved status that it could restore. -/
theorem spsr?_of_user {regs : RegisterFile} (user : regs.mode = .user) : regs.spsr? = none := by
  rw [spsr?, user]
  rfl

/-- A write of the current status from User mode reaches the highest byte only, whichever fields it
names, and no privileged bit is there. -/
theorem blend_flags_and (fields : BitVec 4) (old new : Word) :
    Arm.blend (Arm.fieldMask fields &&& 0xFF000000 &&& ~~~Status.thumb) old new &&&
      Status.privilegedMask = old &&& Status.privilegedMask := by
  have apart : Status.privilegedMask &&& 0xFF000000 = 0 := by decide
  refine Arm.blend_and_of_disjoint ?_ old new
  rw [← BitVec.and_assoc, Status.and_and_of_disjoint apart]
  exact BitVec.zero_and

/-- A write of a status register from User mode keeps what is privileged: of the current status it
reaches the flags, and a saved one there is not. -/
theorem KeepsPrivileged.writeStatus {regs : RegisterFile} (user : regs.InUserMode) (saved : Bool)
    (fields : BitVec 4) (operand : Arm.StatusOperand) :
    KeepsPrivileged regs (Arm.writeStatus saved fields operand regs) := by
  unfold Arm.writeStatus
  dsimp only
  rw [spsr?_of_user user.mode, if_pos user.mode]
  split
  · exact .refl regs
  · exact .setCpsr user (blend_flags_and fields _ _)

/-- Whatever instructions do in User mode keeps what is privileged. By induction on the few
operations that they are made of. -/
theorem Changed.keepsPrivileged {start regs : RegisterFile} (changed : Changed start regs)
    (user : start.InUserMode) : KeepsPrivileged start regs := by
  induction changed with
  | unchanged => exact .refl start
  | set _ r value ih => exact ih.trans (.set (ih.inUserMode user).mode r value)
  | setUserRegister _ r value ih => exact ih.trans (.setUserRegister _ r value)
  | setFlag _ unprivileged value ih => exact ih.trans (.setFlag _ unprivileged value)
  | @restoreStatus regs _ ih =>
      have none := spsr?_of_user (ih.inUserMode user).mode
      have kept : regs.restoreStatus = regs := by rw [RegisterFile.restoreStatus, none]
      rw [kept]
      exact ih
  | writeStatus _ saved fields operand ih =>
      exact ih.trans (.writeStatus (ih.inUserMode user) saved fields operand)

/-- What a program of User mode leaves behind when it raises an exception. The handler has been
entered at its vector, and of what belongs to the privileged modes only the mode, the interrupt
mask, and the link register and the saved status of the new mode differ. -/
structure Enters (e : Exception) (before after : RegisterFile) : Prop where
  pc : after.pc = e.vector
  modeField : Status.modeField after.cpsr = e.targetMode.bits
  irqMask : after.flag Status.irqMask = true
  fiqMask : after.flag Status.fiqMask = before.flag Status.fiqMask
  saved : ∀ mode, mode ≠ e.targetMode → after.savedStatus? mode = before.savedStatus? mode
  registers : ∀ (mode : Mode) r, mode.Owns r → ¬ (mode = e.targetMode ∧ r = .lr) →
    after.banked mode r = before.banked mode r

/-- Entering an exception that a program can raise leads to its vector, in its mode, with interrupts
masked and the old status saved. -/
theorem enters_enterException {e : Exception} (raised : e.raisedByPrograms = true)
    (regs : RegisterFile) : Enters e regs (regs.enterException e) where
  pc := regs.pc_enterException e
  modeField := by
    have named := (wellFormed_enterException regs e).namesMode
    rw [NamesMode, mode_enterException] at named
    exact Mode.ofBits?_eq_some named
  irqMask := regs.irqMask_enterException e
  fiqMask := regs.fiqMask_enterException (by cases e <;> first | rfl | cases raised)
  saved mode other := by rw [savedStatus?_enterException, if_neg other]
  registers mode r owns other := by
    rw [banked_enterException _ _ _ owns.ne_pc, if_neg fun both => other ⟨both.2, both.1⟩]

namespace Enters

variable {e : Exception} {before after : RegisterFile}

/-- No exception is handled in User mode. -/
theorem not_inUserMode (enters : Enters e before after) : ¬ after.InUserMode := by
  intro user
  have field := enters.modeField.symm.trans user
  cases e <;> exact absurd field (by decide)

/-- What is privileged does not depend on where the program is, so that the fetch before an
exception can be left out. -/
theorem of_setPc {address : Word} (enters : Enters e (before.setPc address) after) :
    Enters e before after where
  pc := enters.pc
  modeField := enters.modeField
  irqMask := enters.irqMask
  fiqMask := enters.fiqMask
  saved := enters.saved
  registers mode r owns other := by
    rw [enters.registers mode r owns other, banked_setPc _ _ owns.ne_pc]

/-- What has been kept before the exception is kept by it, so that it may be told from an earlier
file. -/
theorem of_keepsPrivileged {start : RegisterFile} (enters : Enters e before after)
    (keeps : KeepsPrivileged start before) : Enters e start after where
  pc := enters.pc
  modeField := enters.modeField
  irqMask := enters.irqMask
  fiqMask := by
    rw [enters.fiqMask, flag, flag, keeps.cpsr_and (by decide)]
  saved mode other := (enters.saved mode other).trans (keeps.saved mode)
  registers mode r owns other :=
    (enters.registers mode r owns other).trans (keeps.registers mode r owns)

end Enters

end RegisterFile

namespace Machine

open RegisterFile

/-- The machine after a number of instructions. -/
def afterSteps (m : Machine) : Nat → Machine
  | 0 => m
  | count + 1 => (m.afterSteps count).step.2

/-- One instruction of User mode keeps what is privileged, or raises an exception that programs can
raise and enters it. The outcome tells which. -/
theorem step_of_user {m : Machine} (user : m.regs.InUserMode) :
    match m.step with
    | (.retired .., after) | (.skipped .., after) => KeepsPrivileged m.regs after.regs
    | (.trapped _ e _, after) => e.raisedByPrograms = true ∧ Enters e m.regs after.regs := by
  have stepped := m.step_spec
  revert stepped
  generalize m.step = result
  intro stepped
  cases stepped with
  | retired pc category cycles changed => exact changed.keepsPrivileged user
  | skipped pc cycles changed => exact changed.keepsPrivileged user
  | trapped pc raised cycles set =>
      exact ⟨raised, (enters_enterException raised (m.advance set).regs).of_setPc⟩

/-- In User mode a step keeps what is privileged, or it raises an exception. The cases are those of
a step: skipped, trapped, executed. -/
theorem step_cases_of_user {m : Machine} (user : m.regs.InUserMode) :
    KeepsPrivileged m.regs m.step.2.regs ∨
      ∃ e : Exception, e.raisedByPrograms = true ∧ Enters e m.regs m.step.2.regs := by
  have stepped := step_of_user user
  revert stepped
  generalize m.step = result
  obtain ⟨outcome, after⟩ := result
  intro stepped
  cases outcome with
  | retired | skipped => exact .inl stepped
  | trapped pc e cycles => exact .inr ⟨e, stepped⟩

/-- As long as a program stays in User mode, nothing privileged has changed since it began. By
induction on the steps, each of which keeps it. -/
theorem keepsPrivileged_afterSteps {m : Machine} {count : Nat}
    (stays : ∀ k ≤ count, (m.afterSteps k).regs.InUserMode) :
    KeepsPrivileged m.regs (m.afterSteps count).regs := by
  induction count with
  | zero => exact .refl m.regs
  | succ count ih =>
      have before := ih fun k within => stays k (Nat.le_succ_of_le within)
      have current := stays count (Nat.le_succ count)
      rcases step_cases_of_user current with keeps | ⟨e, raised, enters⟩
      · exact before.trans keeps
      · exact absurd (stays (count + 1) (Nat.le_refl _)) enters.not_inUserMode

/-- A program of User mode does not get at what belongs to the privileged modes. Each of its
instructions leaves the mode, the interrupt masks, every saved status and every private register of
another mode alone, or raises an exception, whose handler is entered at its vector with a new link
register and saved status of its own. The first state outside User mode is therefore that of such a
handler, however many instructions the program executes. -/
theorem user_program_confined {m : Machine} (user : m.regs.InUserMode) :
    (match m.step with
      | (.retired .., after) | (.skipped .., after) => KeepsPrivileged m.regs after.regs
      | (.trapped _ e _, after) => e.raisedByPrograms = true ∧ Enters e m.regs after.regs) ∧
    ∀ count, (∀ k < count, (m.afterSteps k).regs.InUserMode) →
      ((m.afterSteps count).regs.InUserMode →
        KeepsPrivileged m.regs (m.afterSteps count).regs) ∧
      (¬ (m.afterSteps count).regs.InUserMode →
        ∃ e : Exception, e.raisedByPrograms = true ∧
          Enters e m.regs (m.afterSteps count).regs) := by
  refine ⟨step_of_user user, ?_⟩
  intro count inUser
  refine ⟨?_, ?_⟩
  · intro still
    refine keepsPrivileged_afterSteps fun k within => ?_
    rcases Nat.lt_or_eq_of_le within with earlier | rfl
    · exact inUser k earlier
    · exact still
  · intro left
    cases count with
    | zero => exact absurd user left
    | succ count =>
        have current := inUser count (Nat.lt_succ_self count)
        have before := keepsPrivileged_afterSteps fun k within =>
          inUser k (Nat.lt_succ_of_le within)
        rcases step_cases_of_user current with keeps | ⟨e, raised, enters⟩
        · exact absurd (keeps.inUserMode current) left
        · exact ⟨e, raised, enters.of_keepsPrivileged before⟩

/-- A program of User mode in the boot ROM, where a write of the whole status comes next, stays in
User mode all the same. -/
theorem user_program_in_rom_confined :
    let m : Machine := ⟨{ RegisterFile.powerOn.setPc 0x38 with cpsr := 0x10 }, Bus.powerOn⟩
    m.regs.InUserMode ∧ ∀ count, (∀ k < count, (m.afterSteps k).regs.InUserMode) →
      ((m.afterSteps count).regs.InUserMode →
        KeepsPrivileged m.regs (m.afterSteps count).regs) ∧
      (¬ (m.afterSteps count).regs.InUserMode →
        ∃ e : Exception, e.raisedByPrograms = true ∧
          Enters e m.regs (m.afterSteps count).regs) := by
  intro m
  have user : m.regs.InUserMode := by
    show Status.modeField 0x10 = Mode.user.bits
    decide
  exact ⟨user, (user_program_confined user).2⟩

end Machine

end Handheld
