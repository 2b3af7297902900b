import Handheld.Proofs.Alignment
import Handheld.Proofs.Cpu.Banking

/-!
# Register files a processor can run from

A register file is well formed when its status names a mode and `r15` holds an address that is
aligned for the selected instruction set. Each operation that an instruction is made of keeps a
register file well formed; a branch makes it so whatever `r15` was before, as long as the status
names a mode (`NamesMode.branchTo`).
-/

namespace Handheld

/-- The condition flags. -/
def Status.conditionMask : Word := 0xF0000000

namespace RegisterFile

/-! ## Changes of the condition flags -/

/-- Two register files that differ in the condition flags only. -/
structure SameButFlags (before after : RegisterFile) : Prop where
  registers : after = { before with cpsr := after.cpsr }
  status : after.cpsr &&& ~~~Status.conditionMask = before.cpsr &&& ~~~Status.conditionMask

namespace SameButFlags

variable {a b c : RegisterFile}

theorem refl (regs : RegisterFile) : SameButFlags regs regs := ⟨rfl, rfl⟩

/-- What changes flags only, twice, changes flags only. -/
theorem trans (first : SameButFlags a b) (second : SameButFlags b c) : SameButFlags a c := by
  refine ⟨?_, second.status.trans first.status⟩
  rw [second.registers, first.registers]

/-- Setting one of the condition flags changes flags only: the mode, the masks, the Thumb bit and
all registers stay. -/
theorem setFlag (same : SameButFlags a b) {mask : Word}
    (flag : ~~~Status.conditionMask &&& mask = 0) (value : Bool) :
    SameButFlags a (b.setFlag mask value) :=
  same.trans ⟨rfl, cpsr_setFlag_and b flag value⟩

/-- Masks outside the condition flags read the same. -/
theorem cpsr_and (same : SameButFlags a b) {mask : Word}
    (outside : ~~~Status.conditionMask &&& mask = mask) : b.cpsr &&& mask = a.cpsr &&& mask :=
  Status.and_eq_and_of_part same.status outside

/-- A change of flags is no change of a register. -/
theorem get (same : SameButFlags a b) (r : RegNum) : b.get r = a.get r := by
  rw [same.registers]
  rfl

/-- A change of flags is no change of a saved status. -/
theorem savedStatus? (same : SameButFlags a b) (mode : Mode) :
    b.savedStatus? mode = a.savedStatus? mode := by
  rw [same.registers]
  rfl

/-- The flags do not take part in the mode. -/
theorem mode (same : SameButFlags a b) : b.mode = a.mode :=
  mode_congr (same.cpsr_and (by decide))

/-- Of the status a change of flags leaves what is not a flag. -/
theorem flag (same : SameButFlags a b) {mask : Word}
    (outside : ~~~Status.conditionMask &&& mask = mask) : b.flag mask = a.flag mask := by
  rw [RegisterFile.flag, RegisterFile.flag, same.cpsr_and outside]

/-- The flags do not take part in selecting the instruction set. -/
theorem thumb (same : SameButFlags a b) : b.thumb = a.thumb :=
  same.flag (by decide)

/-- A change of flags is no change of a register in any mode. -/
theorem banked (same : SameButFlags a b) (mode : Mode) (r : RegNum) :
    b.banked mode r = a.banked mode r := by
  have visible : b.visible = a.visible := by rw [same.registers]
  have shared : b.sharedHigh = a.sharedHigh := by rw [same.registers]
  have fiq : b.fiqHigh = a.fiqHigh := by rw [same.registers]
  have links : b.stackLinks = a.stackLinks := by rw [same.registers]
  exact banked_of_storage same.mode visible shared fiq links mode r

end SameButFlags

/-- Every change of flags that an operation makes is a change of the condition flags only, whichever
of the kinds of change it is. -/
theorem sameButFlags_apply (update : FlagsUpdate) (regs : RegisterFile) :
    SameButFlags regs (update.apply regs) := by
  cases update with
  | none => exact .refl regs
  | result value => exact ((SameButFlags.refl regs).setFlag (by decide) _).setFlag (by decide) _
  | logical value carry =>
      exact (((SameButFlags.refl regs).setFlag (by decide) _).setFlag (by decide) _).setFlag
        (by decide) _
  | arithmetic sum =>
      exact ((((SameButFlags.refl regs).setFlag (by decide) _).setFlag (by decide) _).setFlag
        (by decide) _).setFlag (by decide) _
  | long value => exact ((SameButFlags.refl regs).setFlag (by decide) _).setFlag (by decide) _

/-! ## A status that names a mode -/

/-- The status has a valid mode field. -/
def NamesMode (regs : RegisterFile) : Prop :=
  Mode.ofBits? (Status.modeField regs.cpsr) = some regs.mode

instance (regs : RegisterFile) : Decidable (NamesMode regs) :=
  inferInstanceAs (Decidable (_ = _))

/-- A status whose mode field is that of a mode names this mode, and with the field as it is
written. -/
theorem namesMode_of_some {regs : RegisterFile} {mode : Mode}
    (named : Mode.ofBits? (Status.modeField regs.cpsr) = some mode) : NamesMode regs := by
  rw [NamesMode, RegisterFile.mode, named, Option.getD_some]

/-- A status into which a mode was put names it. -/
theorem namesMode_withMode {regs : RegisterFile} {status : Word} {mode : Mode}
    (written : regs.cpsr = Status.withMode status mode) : NamesMode regs :=
  namesMode_of_some (by rw [written, Status.modeField_withMode, Mode.ofBits?_bits])

/-- A change of status leaves a valid mode field, whatever was there and whatever is asked for. -/
theorem namesMode_setCpsr (regs : RegisterFile) (status : Word) : NamesMode (regs.setCpsr status) :=
  namesMode_withMode rfl

namespace NamesMode

variable {a b regs : RegisterFile}

/-- Whether a status names a mode depends on its mode field alone. -/
theorem of_cpsr_and (named : NamesMode a)
    (same : b.cpsr &&& Status.modeMask = a.cpsr &&& Status.modeMask) : NamesMode b := by
  rw [NamesMode, mode_congr same, Status.modeField_congr same]
  exact named

/-- Status bits outside of the mode field can be changed freely. -/
theorem setFlag (named : NamesMode regs) (mask : Word) (disjoint : Status.modeMask &&& mask = 0)
    (value : Bool) : NamesMode (regs.setFlag mask value) :=
  named.of_cpsr_and (cpsr_setFlag_and regs disjoint value)

/-- A restored status names a mode, also when the saved one did not: then the current mode is put
into it. -/
theorem restoreStatus (named : NamesMode regs) : NamesMode regs.restoreStatus := by
  unfold RegisterFile.restoreStatus
  split
  · exact namesMode_setCpsr regs _
  · exact named

end NamesMode

/-! ## Well-formed register files -/

/-- The status names a mode, and `r15` is aligned for the selected instruction set. -/
structure WellFormed (regs : RegisterFile) : Prop where
  namesMode : NamesMode regs
  aligned : regs.instructionSet.align regs.pc = regs.pc

/-- A branch leaves `r15` aligned, wherever it goes. -/
theorem NamesMode.branchTo {regs : RegisterFile} (named : NamesMode regs) (target : Word) :
    WellFormed (regs.branchTo target) := by
  refine ⟨named, ?_⟩
  rw [RegisterFile.branchTo, pc_setPc, setPc, instructionSet_set, InstructionSet.align_align]

/-- The Thumb bit alone selects the instruction set. -/
theorem instructionSet_congr {a b : RegisterFile} (same : a.thumb = b.thumb) :
    a.instructionSet = b.instructionSet := by
  rw [instructionSet, instructionSet, same]

namespace WellFormed

variable {a b regs : RegisterFile}

/-- What is well formed depends on the mode field, the Thumb bit and `r15` only. Most operations
keep all three. -/
theorem of_same (wellFormed : WellFormed a)
    (mode : b.cpsr &&& Status.modeMask = a.cpsr &&& Status.modeMask) (thumb : b.thumb = a.thumb)
    (pc : b.pc = a.pc) : WellFormed b := by
  refine ⟨wellFormed.namesMode.of_cpsr_and mode, ?_⟩
  rw [instructionSet_congr thumb, pc]
  exact wellFormed.aligned

/-- A register other than `r15` can be written freely. -/
theorem set (wellFormed : WellFormed regs) {r : RegNum} (notPc : r ≠ .pc) (value : Word) :
    WellFormed (regs.set r value) :=
  wellFormed.of_same rfl rfl (pc_set_of_ne regs notPc value)

/-- A register written by an instruction is never left misaligned, `r15` included. -/
theorem assign (wellFormed : WellFormed regs) (r : RegNum) (value : Word) :
    WellFormed (regs.assign r value) := by
  unfold RegisterFile.assign
  split
  · exact wellFormed.namesMode.branchTo value
  · exact wellFormed.set ‹_› value

/-- A base register can take any final address, since `r15` never does. -/
theorem writeBack (wellFormed : WellFormed regs) (r : RegNum) (address : Word) :
    WellFormed (regs.writeBack r address) := by
  unfold RegisterFile.writeBack
  split
  · exact wellFormed
  · exact wellFormed.set ‹_› address

/-- Flags can be set freely. -/
theorem applyFlags (wellFormed : WellFormed regs) (update : FlagsUpdate) :
    WellFormed (update.apply regs) :=
  have same := sameButFlags_apply update regs
  wellFormed.of_same (same.cpsr_and (by decide)) same.thumb (same.get .pc)

/-- A saved status can be anything. Only when it is restored does it have to name a mode. -/
theorem setSpsr (wellFormed : WellFormed regs) (status : Word) :
    WellFormed (regs.setSpsr status) :=
  wellFormed.of_same (by rw [cpsr_setSpsr])
    (by rw [RegisterFile.thumb, flag, cpsr_setSpsr, ← flag, ← RegisterFile.thumb])
    (get_setSpsr regs status .pc)

/-- A register of User mode other than `r15` can be written freely. -/
theorem setUserRegister (wellFormed : WellFormed regs) {r : RegNum} (notPc : r ≠ .pc)
    (value : Word) : WellFormed (regs.setUserRegister r value) := by
  have status := cpsr_setUserRegister regs r value
  refine wellFormed.of_same (by rw [status]) (by rw [RegisterFile.thumb, flag, status]; rfl) ?_
  rw [← banked_pc _ .user, ← banked_pc regs .user, banked_setUserRegister,
    if_neg fun both => notPc both.1.symm]

/-- A change of status that keeps the Thumb bit keeps `r15` aligned, and the mode field names a mode
even if the new status does not. -/
theorem setCpsr (wellFormed : WellFormed regs) {status : Word}
    (thumb : status &&& Status.thumb = regs.cpsr &&& Status.thumb) :
    WellFormed (regs.setCpsr status) := by
  refine ⟨namesMode_setCpsr regs status, ?_⟩
  have sameThumb : (regs.setCpsr status).thumb = regs.thumb := by
    rw [RegisterFile.thumb, flag, RegisterFile.setCpsr, Status.withMode_and (by decide), thumb]
    rfl
  rw [instructionSet_congr sameThumb, pc_setCpsr]
  exact wellFormed.aligned

end WellFormed

/-- The handler of an exception starts at an aligned address in a valid mode and in ARM state,
whatever the file was like before. -/
theorem wellFormed_enterException (regs : RegisterFile) (e : Exception) :
    WellFormed (regs.enterException e) := by
  constructor
  · have entered : NamesMode ((regs.switchMode e.targetMode).setSpsr regs.cpsr) :=
      namesMode_withMode (by rw [cpsr_setSpsr, cpsr_switchMode])
    have linked : NamesMode (((regs.switchMode e.targetMode).setSpsr regs.cpsr).set .lr
        (regs.pc + e.linkOffset)) := entered
    have masked := (linked.setFlag Status.thumb (by decide) false).setFlag Status.irqMask
      (by decide) true
    unfold enterException
    dsimp only
    split
    · exact masked.setFlag Status.fiqMask (by decide) true
    · exact masked
  · rw [pc_enterException, instructionSet, thumb_enterException, if_neg Bool.false_ne_true]
    cases e <;> decide

end RegisterFile

end Handheld
