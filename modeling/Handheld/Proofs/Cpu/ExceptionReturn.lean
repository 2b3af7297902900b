import Handheld.Proofs.Arm.DataProcessing
import Handheld.Proofs.Cpu.Step
import Handheld.Proofs.Memory.BootProgram

/-!
# Return from an exception

A handler returns by moving the link register to `r15`, less the link offset of its exception, with
an instruction that restores the saved status (`Exception.Return`). Entry and return together are
the identity on the interrupted program (`RegisterFile.Restored`), and the vectors that hold no
routine of their own hold such an instruction.
-/

namespace Handheld

/-- The instructions that return from an exception. -/
inductive Exception.Return (e : Exception) : Arm.Instruction → Prop
  /-- `SUBS pc, lr` by the link offset. -/
  | subtract (rotate : BitVec 5) :
    Return e (.dataProcessing .sub true .lr .pc (.immediate e.linkOffset rotate))
  /-- `MOVS pc, lr`, where there is nothing to subtract. -/
  | move (rn : RegNum) (noOffset : e.linkOffset = 0) :
    Return e (.dataProcessing .mov true rn .pc (.register .lr .lsl (.immediate 0)))

namespace Exception.Return

variable {e : Exception} {instruction : Arm.Instruction}

/-- Every return restores the saved status and branches to the address in the link register, less
the link offset. -/
theorem execute_eq (returns : e.Return instruction) (m : Machine) :
    instruction.execute m =
      m.mapRegs fun regs => regs.restoreStatus.branchTo (regs.get .lr - e.linkOffset) := by
  have link : Arm.read m.regs .lr = m.regs.get .lr := m.regs.operand_of_ne (by decide) _
  cases returns with
  | subtract rotate =>
      refine congrArg (Machine.mk · m.bus)
        (?_ : Arm.dataProcessing .sub true .lr .pc (.immediate e.linkOffset rotate) m.regs = _)
      simp only [Arm.dataProcessing, Arm.Operand.shiftsByRegister, Arm.Opcode.isTest,
        Arm.Opcode.compute, Arm.Operand.evaluate, Adder.value_sub, link, Bool.false_eq_true,
        ↓reduceIte]
  | move rn noOffset =>
      have whole (address : Word) : address - 0 = address := BitVec.sub_zero address
      refine congrArg (Machine.mk · m.bus)
        (?_ : Arm.dataProcessing .mov true rn .pc (.register .lr .lsl (.immediate 0)) m.regs = _)
      simp only [Arm.dataProcessing, Arm.Opcode.isTest, Arm.Opcode.compute, Arm.Operand.evaluate,
        Shifted.byImmediate, link, noOffset, whole, Bool.false_eq_true, ↓reduceIte]

theorem trap?_eq_none (returns : e.Return instruction) : instruction.trap? = none := by
  cases returns <;> rfl

theorem category_eq (returns : e.Return instruction) : instruction.category = .dataProcessing := by
  cases returns <;> rfl

end Exception.Return

namespace RegisterFile

/-- The interrupted program has everything back: of all the registers of all modes, only the link
register and the saved status of the mode that took the exception differ. -/
structure Restored (e : Exception) (before after : RegisterFile) : Prop where
  cpsr : after.cpsr = before.cpsr
  pc : after.pc = before.pc
  kept : ∀ mode r, ¬ (mode = e.targetMode ∧ r = .lr) →
    after.banked mode r = before.banked mode r
  saved : ∀ mode, after.savedStatus? mode =
    if mode = e.targetMode then some before.cpsr else before.savedStatus? mode

variable (regs : RegisterFile)

/-- A handler that has not changed the status restores the one that was saved on entry, wherever
its code is. -/
theorem restoreStatus_enterException (e : Exception) (address : Word) :
    ((regs.enterException e).setPc address).restoreStatus =
      ((regs.enterException e).setPc address).setCpsr regs.cpsr := by
  have saved : ((regs.enterException e).setPc address).spsr? = some regs.cpsr := by
    rw [spsr?, setPc, mode_set, savedStatus?_set, mode_enterException,
      savedStatus?_enterException, if_pos rfl]
  rw [restoreStatus, saved]

/-- Entry and return are the identity on the interrupted program: its status, its registers in every
mode, and the address that the return names. -/
theorem restored_of_return {regs : RegisterFile} (wellFormed : regs.WellFormed) (e : Exception)
    (address : Word) :
    let handler := (regs.enterException e).setPc address
    Restored e regs (handler.restoreStatus.branchTo (handler.get .lr - e.linkOffset)) := by
  intro handler
  have status : (handler.setCpsr regs.cpsr).cpsr = regs.cpsr :=
    handler.cpsr_setCpsr wellFormed.namesMode
  have link : handler.get .lr - e.linkOffset = regs.pc := by
    have mode : handler.mode = e.targetMode := mode_enterException regs e
    rw [← banked_mode, mode, banked_setPc _ _ (by decide), banked_enterException _ _ _ (by decide),
      if_pos ⟨rfl, rfl⟩]
    exact BitVec.add_sub_cancel _ _
  have aligned : (handler.setCpsr regs.cpsr).instructionSet.align regs.pc = regs.pc := by
    have set : (handler.setCpsr regs.cpsr).thumb = regs.thumb := by
      rw [thumb, flag, status]
      rfl
    rw [instructionSet_congr set]
    exact wellFormed.aligned
  rw [restoreStatus_enterException, link, branchTo, aligned]
  refine ⟨status, pc_setPc _ _, ?_, ?_⟩
  · intro mode r other
    by_cases isPc : r = .pc
    · rw [isPc, banked_pc, banked_pc, pc_setPc]
    · rw [banked_setPc _ _ isPc, banked_setCpsr, banked_setPc _ _ isPc,
        banked_enterException _ _ _ isPc, if_neg fun both => other ⟨both.2, both.1⟩]
  · intro mode
    rw [setPc, savedStatus?_set, savedStatus?_setCpsr, setPc, savedStatus?_set,
      savedStatus?_enterException]

end RegisterFile

/-- The exceptions whose vector holds the return itself. -/
def Exception.returnsAtVector : Exception → Bool
  | softwareInterrupt | undefinedInstruction | prefetchAbort | fiq => true
  | reset | dataAbort | irq => false

theorem Exception.exists_return_at_vector (e : Exception) (returns : e.returnsAtVector = true) :
    ∃ instruction, e.Return instruction ∧
      Arm.decode (BootRom.program[e.vector.toNat / 4]?.getD 0) = ⟨.al, instruction⟩ := by
  cases e with
  | softwareInterrupt => exact ⟨_, .move 0 rfl, by decide⟩
  | undefinedInstruction => exact ⟨_, .move 0 rfl, by decide⟩
  | prefetchAbort => exact ⟨_, .subtract 0, by decide⟩
  | fiq => exact ⟨_, .subtract 0, by decide⟩
  | reset | dataAbort | irq => cases returns

theorem Exception.vector_in_rom (e : Exception) :
    e.vector.toNat < 0x4000 ∧ e.vector.toNat % 4 = 0 := by
  cases e <;> decide

/-- An exception that is entered and returned from has no effect on the interrupted program: status,
`r15` and every register of every mode are as they were, but for the link register and the saved
status of the mode that took the exception. This holds of every exception, from every mode and
instruction set, wherever the return is executed; and where the boot ROM returns at once, one
instruction after the entry does it. -/
theorem RegisterFile.exception_return_is_identity {regs : RegisterFile}
    (wellFormed : regs.WellFormed) (e : Exception) :
    (∀ instruction, e.Return instruction → ∀ address bus,
      let returned := instruction.execute ⟨(regs.enterException e).setPc address, bus⟩
      Restored e regs returned.regs ∧ returned.bus = bus) ∧
    (e.returnsAtVector = true → ∀ bus : Bus, bus.bios = BootRom.image →
      (∃ instruction, e.Return instruction ∧
        Arm.decode (bus.read32 e.vector) = ⟨.al, instruction⟩) ∧
      let entered : Machine := ⟨regs.enterException e, bus⟩
      entered.step.1 =
          .retired e.vector .dataProcessing InstructionClass.dataProcessing.cycles ∧
        Restored e regs entered.step.2.regs ∧ entered.step.2.bus = bus) := by
  refine ⟨?_, ?_⟩
  · intro instruction returns address bus returned
    have effect : returned = _ := returns.execute_eq _
    rw [effect]
    exact ⟨restored_of_return wellFormed e address, rfl⟩
  · intro atVector bus boot
    obtain ⟨instruction, returns, decoded⟩ := e.exists_return_at_vector atVector
    obtain ⟨inRom, aligned⟩ := e.vector_in_rom
    refine ⟨⟨instruction, returns, ?_⟩, ?_⟩
    · rw [Bus.read32_bios boot inRom aligned, decoded]
    · intro entered
      have fetched : entered.fetchWord = _ :=
        Machine.fetchWord_bios boot (pc_enterException regs e) inRom aligned
      rw [← fetched] at decoded
      have stepped := Machine.step_of_decode (m := entered) (thumb_enterException regs e) decoded
        returns.trap?_eq_none
      rw [stepped, returns.execute_eq, returns.category_eq]
      refine ⟨?_, restored_of_return wellFormed e _, rfl⟩
      exact congrArg (ExecuteOutcome.retired · _ _) (pc_enterException regs e)

/-- A Thumb program of User mode that calls the supervisor, and a fast interrupt that comes while
another one is handled. -/
theorem RegisterFile.supervisor_call_and_nested_fiq_return :
    let program := { powerOn.setPc 0x08000102 with cpsr := 0x30 }
    let handler := { powerOn.setPc 0x20 with cpsr := 0xD1 }
    Restored .softwareInterrupt program
        (Machine.step ⟨program.enterException .softwareInterrupt, Bus.powerOn⟩).2.regs ∧
      Restored .fiq handler
        ((Arm.Instruction.dataProcessing .sub true .lr .pc (.immediate 4 0)).execute
          ⟨(handler.enterException .fiq).setPc 0x1C, Bus.powerOn⟩).regs := by
  intro program handler
  have called : program.WellFormed := ⟨by decide, by decide⟩
  have interrupted : handler.WellFormed := ⟨by decide, by decide⟩
  have vector := (exception_return_is_identity called .softwareInterrupt).2 rfl Bus.powerOn rfl
  have anywhere := (exception_return_is_identity interrupted .fiq).1 _ (.subtract 0) 0x1C
    Bus.powerOn
  exact ⟨vector.2.2.1, anywhere.1⟩

end Handheld
