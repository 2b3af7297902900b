import Handheld.Cpu.Step
import Handheld.Proofs.Arm.WellFormed
import Handheld.Proofs.Memory.Writes
import Handheld.Proofs.Thumb.WellFormed

/-!
# One instruction

What holds of every instruction of both sets, whether it is executed, skipped or trapped: the
registers stay well formed (`Machine.wellFormed_step`), the bus is changed by byte writes only
(`Machine.written_step`), and the outcome carries `r15` as it was (`Machine.pc_step`).
-/

namespace Handheld.Machine

open RegisterFile

/-- The address an instruction is fetched from. -/
def fetchAddress (m : Machine) : Word := m.regs.instructionSet.align m.regs.pc

/-- The instruction after an aligned one follows it. -/
theorem advance_of_align {m : Machine} {set : InstructionSet} {pc : Word} (here : m.regs.pc = pc)
    (aligned : set.align pc = pc) : m.advance set = ⟨m.regs.setPc (pc + set.width), m.bus⟩ := by
  rw [advance, mapRegs, here, aligned]

/-- Fetching an instruction from an aligned address moves the program counter to the next one. -/
theorem advance_of_aligned {m : Machine} {pc : Word} (here : m.regs.pc = pc)
    (aligned : pc.toNat % 4 = 0) : m.advance .arm = ⟨m.regs.setPc (pc + 4), m.bus⟩ :=
  advance_of_align here ((Word.alignWord_eq_self_iff pc).mpr aligned)

/-- With the Thumb bit set a step executes a Thumb instruction. -/
theorem step_of_thumb {m : Machine} (thumb : m.regs.thumb = true) : m.step = m.stepThumb :=
  if_pos thumb

/-- With the Thumb bit clear a step executes an ARM instruction. -/
theorem step_of_arm {m : Machine} (arm : m.regs.thumb = false) : m.step = m.stepArm :=
  if_neg (Bool.eq_false_iff.mp arm)

section Executed

variable {m : Machine}

/-- A Thumb instruction that traps does nothing but enter its exception, with `r15` at the next
instruction. -/
theorem stepThumb_of_trap {e : Exception} (traps : (Thumb.decode m.fetchHalf).trap? = some e) :
    m.stepThumb = (.trapped m.regs.pc e (Thumb.decode m.fetchHalf).category.cycles,
      (m.advance .thumb).mapRegs (·.enterException e)) := by
  simp only [stepThumb, traps]

/-- Any other Thumb instruction is executed with the program counter at the next one, and its class
gives its cycles. -/
theorem stepThumb_of_noTrap (noTrap : (Thumb.decode m.fetchHalf).trap? = none) :
    m.stepThumb = (.retired m.regs.pc (Thumb.decode m.fetchHalf).category
        (Thumb.decode m.fetchHalf).category.cycles,
      (Thumb.decode m.fetchHalf).execute (m.advance .thumb)) := by
  simp only [stepThumb, noTrap]

/-- The outcome of a Thumb step names the class of its instruction exactly if this does not trap. So
the class can be told from the outside. -/
theorem retired_stepThumb_iff (m : Machine) (category : InstructionClass) :
    (∃ cycles, m.stepThumb.1 = .retired m.regs.pc category cycles) ↔
      (Thumb.decode m.fetchHalf).trap? = none ∧
        (Thumb.decode m.fetchHalf).category = category := by
  cases traps : (Thumb.decode m.fetchHalf).trap? with
  | some taken =>
      rw [stepThumb_of_trap traps]
      exact iff_of_false nofun nofun
  | none =>
      rw [stepThumb_of_noTrap traps]
      refine ⟨fun ⟨_, same⟩ => ⟨rfl, ?_⟩, fun ⟨_, same⟩ => ⟨_, by rw [same]⟩⟩
      exact (ExecuteOutcome.retired.inj same).2.1

/-- Moving on does not change the status a condition is asked of. -/
theorem cpsr_advance (m : Machine) (set : InstructionSet) :
    (m.advance set).regs.cpsr = m.regs.cpsr :=
  rfl

/-- An ARM instruction whose condition fails does nothing, whatever it is. That includes those that
would trap. -/
theorem stepArm_of_fails
    (fails : (Arm.decode m.fetchWord).condition.passes m.regs.cpsr = false) :
    m.stepArm = (.skipped m.regs.pc (Arm.decode m.fetchWord).instruction.category.cycles,
      m.advance .arm) := by
  simp only [stepArm, cpsr_advance, fails, Bool.not_false, ↓reduceIte]

variable (passes : (Arm.decode m.fetchWord).condition.passes m.regs.cpsr = true)

include passes

/-- An ARM instruction that traps, on a condition that holds, enters its exception and does nothing
else. -/
theorem stepArm_of_trap {e : Exception}
    (traps : (Arm.decode m.fetchWord).instruction.trap? = some e) :
    m.stepArm = (.trapped m.regs.pc e (Arm.decode m.fetchWord).instruction.category.cycles,
      (m.advance .arm).mapRegs (·.enterException e)) := by
  simp only [stepArm, cpsr_advance, passes, traps, Bool.not_true, Bool.false_eq_true, ↓reduceIte]

/-- Any other ARM instruction whose condition holds is executed with the program counter at the next
one. -/
theorem stepArm_of_noTrap (noTrap : (Arm.decode m.fetchWord).instruction.trap? = none) :
    m.stepArm = (.retired m.regs.pc (Arm.decode m.fetchWord).instruction.category
        (Arm.decode m.fetchWord).instruction.category.cycles,
      (Arm.decode m.fetchWord).instruction.execute (m.advance .arm)) := by
  simp only [stepArm, cpsr_advance, passes, noTrap, Bool.not_true, Bool.false_eq_true, ↓reduceIte]

/-- On a condition that holds, the outcome names the class of the instruction exactly if this does
not trap. -/
theorem retired_stepArm_iff (category : InstructionClass) :
    (∃ cycles, m.stepArm.1 = .retired m.regs.pc category cycles) ↔
      (Arm.decode m.fetchWord).instruction.trap? = none ∧
        (Arm.decode m.fetchWord).instruction.category = category := by
  cases traps : (Arm.decode m.fetchWord).instruction.trap? with
  | some taken =>
      rw [stepArm_of_trap passes traps]
      exact iff_of_false nofun nofun
  | none =>
      rw [stepArm_of_noTrap passes traps]
      refine ⟨fun ⟨_, same⟩ => ⟨rfl, ?_⟩, fun ⟨_, same⟩ => ⟨_, by rw [same]⟩⟩
      exact (ExecuteOutcome.retired.inj same).2.1

end Executed

/-- A Thumb instruction that no trap keeps from being executed is executed by the step that fetches
it. -/
theorem step_of_decodeHalf {m : Machine} (thumb : m.regs.thumb = true)
    {instruction : Thumb.Instruction} (decoded : Thumb.decode m.fetchHalf = instruction)
    (noTrap : instruction.trap? = none) :
    m.step = (.retired m.regs.pc instruction.category instruction.category.cycles,
      instruction.execute (m.advance .thumb)) := by
  rw [← decoded] at noTrap
  rw [step_of_thumb thumb, stepThumb_of_noTrap noTrap, decoded]

/-- An ARM instruction that neither its condition nor a trap keeps from being executed is executed
by the step that fetches it. -/
theorem step_of_decode {m : Machine} (arm : m.regs.thumb = false) {instruction : Arm.Instruction}
    (decoded : Arm.decode m.fetchWord = ⟨.al, instruction⟩)
    (noTrap : instruction.trap? = none) :
    m.step = (.retired m.regs.pc instruction.category instruction.category.cycles,
      instruction.execute (m.advance .arm)) := by
  have passes : (Arm.decode m.fetchWord).condition.passes m.regs.cpsr = true := by
    rw [decoded]
    rfl
  have executed := stepArm_of_noTrap passes (by rw [decoded]; exact noTrap)
  rw [step_of_arm arm, executed, decoded]

/-- Moving on to the next instruction keeps the registers well formed. -/
theorem wellFormed_advance {m : Machine} (wellFormed : m.regs.WellFormed) :
    (m.advance m.regs.instructionSet).regs.WellFormed := by
  refine ⟨wellFormed.namesMode, ?_⟩
  show m.regs.instructionSet.align (m.regs.setPc _).pc = (m.regs.setPc _).pc
  rw [pc_setPc, InstructionSet.align_add_width]

/-- A Thumb step keeps the register file well formed, also when it traps, since the exception is
entered in ARM state. -/
theorem wellFormed_stepThumb {m : Machine} (wellFormed : m.regs.WellFormed)
    (thumb : m.regs.thumb = true) : m.stepThumb.2.regs.WellFormed := by
  have set := instructionSet_of_thumb thumb
  have advanced := wellFormed_advance wellFormed
  rw [set] at advanced
  unfold stepThumb
  dsimp only
  split
  · exact wellFormed_enterException _ _
  · exact Thumb.wellFormed_execute _ advanced

/-- An ARM step keeps the register file well formed, whether its instruction is skipped, traps or is
executed. -/
theorem wellFormed_stepArm {m : Machine} (wellFormed : m.regs.WellFormed)
    (arm : m.regs.thumb = false) : m.stepArm.2.regs.WellFormed := by
  have set := instructionSet_of_arm arm
  have advanced := wellFormed_advance wellFormed
  rw [set] at advanced
  unfold stepArm
  dsimp only
  split
  · exact advanced
  · split
    · exact wellFormed_enterException _ _
    · exact Arm.wellFormed_execute _ advanced

/-- Every instruction keeps the registers well formed. -/
theorem wellFormed_step {m : Machine} (wellFormed : m.regs.WellFormed) :
    m.step.2.regs.WellFormed := by
  unfold step
  split
  · exact wellFormed_stepThumb wellFormed ‹_›
  · exact wellFormed_stepArm wellFormed (Bool.eq_false_iff.mpr ‹_›)

/-- Every instruction changes the bus by writing bytes. -/
theorem written_step (m : Machine) : Bus.Written m.bus m.step.2.bus := by
  rw [m.bus_step]
  exact Bus.Written.unchanged.perform m.stores

/-- The outcome of an instruction carries `r15` as it was before, whichever of the three it is:
skipped, trapped or retired. -/
theorem pc_step (m : Machine) : m.step.1.pc = m.regs.pc := by
  unfold step
  split
  · unfold stepThumb
    dsimp only
    split <;> rfl
  · unfold stepArm
    dsimp only
    split
    · rfl
    · split <;> rfl

end Handheld.Machine
