import Handheld.Proofs.Thumb.ArmTransfer

/-!
# Thumb and ARM execution agree

To execute a Thumb instruction and then enter ARM state is to enter ARM state and then execute its
ARM form (`Thumb.execute_armForm`). So a halfword has the effect of the ARM instruction it
abbreviates on everything but the Thumb bit (`Thumb.decoded_agrees_with_armForm`).
-/

namespace Handheld.Thumb

open RegisterFile

/-- An instruction of low registers and its ARM form have the same effect, the state of the
processor aside. -/
theorem execute_armForm {instruction : Instruction} (low : AllLow instruction.lowRegisters)
    {arm : Arm.Instruction} (form : instruction.armForm? = some arm) (m : Machine) :
    arm.execute m.inArm = (instruction.execute m).inArm := by
  have notPc : ∀ r ∈ instruction.lowRegisters, r ≠ .pc := fun r member =>
    RegNum.ne_of_low (low r member) (by decide)
  cases instruction with
  | moveShifted shift amount rs rd =>
      obtain rfl := Option.some.inj form
      have source := notPc rs (by simp [Instruction.lowRegisters])
      have destination := notPc rd (by simp [Instruction.lowRegisters])
      exact m.mapRegs_inArm (moveShifted_inArm m.regs source destination shift amount)
  | addSubtract subtract operand rs rd =>
      obtain rfl := Option.some.inj form
      refine m.mapRegs_inArm (addSubtract_inArm m.regs ?_ ?_ ?_ subtract)
      · rintro rn rfl
        exact notPc rn (by simp [Instruction.lowRegisters])
      · exact notPc rs (by cases operand <;> simp [Instruction.lowRegisters])
      · exact notPc rd (by cases operand <;> simp [Instruction.lowRegisters])
  | immediate op rd value =>
      obtain rfl := Option.some.inj form
      exact immediate_inArm (notPc rd (by simp [Instruction.lowRegisters])) op value m
  | alu op rs rd =>
      obtain rfl := Option.some.inj form
      exact alu_inArm (notPc rs (by simp [Instruction.lowRegisters]))
        (notPc rd (by simp [Instruction.lowRegisters])) op m
  | hiRegister op rs rd =>
      simp only [Instruction.armForm?] at form
      split at form
      · cases form
      · rename_i general
        obtain rfl := Option.some.inj form
        exact hiRegister_inArm (fun same => general (.inl same))
          (fun same => general (.inr same)) op m
  | loadStoreRegister load byte ro rb rd =>
      obtain rfl := Option.some.inj form
      have base := notPc rb (by simp [Instruction.lowRegisters])
      have offset := notPc ro (by simp [Instruction.lowRegisters])
      refine (singleTransfer_inArm base (notPc rd (by simp [Instruction.lowRegisters])) load byte
        (.register ro .lsl 0) m).trans ?_
      simp only [Instruction.execute, read, operand_of_ne _ base, operand_of_ne _ offset,
        Arm.TransferOffset.evaluate, Arm.read, get_inArm, Shifted.byImmediate, ↓reduceIte]
  | loadStoreSigned op ro rb rd =>
      obtain rfl := Option.some.inj form
      have base := notPc rb (by simp [Instruction.lowRegisters])
      have offset := notPc ro (by simp [Instruction.lowRegisters])
      refine (halfwordTransfer_inArm base (notPc rd (by simp [Instruction.lowRegisters])) op
        (.register ro) m).trans ?_
      simp only [Instruction.execute, read, operand_of_ne _ base, operand_of_ne _ offset,
        Arm.HalfwordOffset.evaluate, Arm.read, get_inArm]
  | loadStoreImmediate load byte offset rb rd =>
      obtain rfl := Option.some.inj form
      have base := notPc rb (by simp [Instruction.lowRegisters])
      refine (singleTransfer_inArm base (notPc rd (by simp [Instruction.lowRegisters])) load byte
        (.immediate (offset.setWidth 12)) m).trans ?_
      simp only [Instruction.execute, read, operand_of_ne _ base, Arm.TransferOffset.evaluate]
      rw [BitVec.setWidth_setWidth (by decide)]
  | loadStoreHalfword load offset rb rd =>
      obtain rfl := Option.some.inj form
      have base := notPc rb (by simp [Instruction.lowRegisters])
      refine (halfwordTransfer_inArm base (notPc rd (by simp [Instruction.lowRegisters])) _
        (.immediate (offset.setWidth 8)) m).trans ?_
      simp only [Instruction.execute, read, operand_of_ne _ base, Arm.HalfwordOffset.evaluate]
      rw [BitVec.setWidth_setWidth (by decide)]
  | spRelative load rd offset =>
      obtain rfl := Option.some.inj form
      refine (singleTransfer_inArm sp_ne_pc (notPc rd (by simp [Instruction.lowRegisters])) load
        false (.immediate (offset.setWidth 12)) m).trans ?_
      simp only [Instruction.execute, read, operand_of_ne _ sp_ne_pc, Arm.TransferOffset.evaluate]
      rw [BitVec.setWidth_setWidth (by decide)]
  | loadAddress fromSp rd offset =>
      cases fromSp with
      | true =>
          obtain rfl := Option.some.inj form
          exact m.mapRegs_inArm
            (loadAddress_inArm m.regs (notPc rd (by simp [Instruction.lowRegisters])) offset)
      | false => cases form
  | adjustStack offset =>
      have square := adjustStack_inArm m.regs offset
      by_cases negative : offset.msb
      · simp only [Instruction.armForm?, negative, ↓reduceIte] at form square
        obtain rfl := Option.some.inj form
        exact m.mapRegs_inArm square
      · simp only [Instruction.armForm?, negative, Bool.false_eq_true, ↓reduceIte] at form square
        obtain rfl := Option.some.inj form
        exact m.mapRegs_inArm square
  | pushPop popped link registers =>
      cases popped with
      | true =>
          cases link with
          | true => cases form
          | false =>
              simp only [Instruction.armForm?] at form
              split at form
              · cases form
              · rename_i nonempty
                obtain rfl := Option.some.inj form
                exact pop_inArm nonempty m
      | false =>
          simp only [Instruction.armForm?] at form
          split at form
          · cases form
          · rename_i transferred
            obtain rfl := Option.some.inj form
            exact push_inArm (pushed_ne_zero transferred) m
  | multipleTransfer load rb registers =>
      simp only [Instruction.armForm?] at form
      split at form
      · cases form
      · obtain rfl := Option.some.inj form
        exact multipleTransfer_inArm (notPc rb (by simp [Instruction.lowRegisters])) ‹_› load m
  | _ => cases form

theorem armForm?_trap? {instruction : Instruction} {arm : Arm.Instruction}
    (form : instruction.armForm? = some arm) : instruction.trap? = none ∧ arm.trap? = none := by
  cases instruction with
  | immediate op =>
      obtain rfl := Option.some.inj form
      cases op <;> exact ⟨rfl, rfl⟩
  | alu op =>
      obtain rfl := Option.some.inj form
      cases op <;> exact ⟨rfl, rfl⟩
  | loadStoreSigned op =>
      obtain rfl := Option.some.inj form
      cases op <;> exact ⟨rfl, rfl⟩
  | loadStoreHalfword load =>
      obtain rfl := Option.some.inj form
      cases load <;> exact ⟨rfl, rfl⟩
  | hiRegister op =>
      simp only [Instruction.armForm?] at form
      split at form
      · cases form
      · obtain rfl := Option.some.inj form
        cases op <;> exact ⟨rfl, rfl⟩
  | loadAddress fromSp =>
      cases fromSp with
      | true =>
          obtain rfl := Option.some.inj form
          exact ⟨rfl, rfl⟩
      | false => cases form
  | adjustStack offset =>
      simp only [Instruction.armForm?] at form
      split at form <;>
        · obtain rfl := Option.some.inj form
          exact ⟨rfl, rfl⟩
  | pushPop popped link registers =>
      cases popped <;> cases link <;> simp only [Instruction.armForm?] at form
      all_goals
        first
        | split at form
          · cases form
          · obtain rfl := Option.some.inj form
            exact ⟨rfl, rfl⟩
        | cases form
  | multipleTransfer load rb registers =>
      simp only [Instruction.armForm?] at form
      split at form
      · cases form
      · obtain rfl := Option.some.inj form
        exact ⟨rfl, rfl⟩
  | moveShifted | addSubtract | loadStoreRegister | loadStoreImmediate | spRelative =>
      obtain rfl := Option.some.inj form
      exact ⟨rfl, rfl⟩
  | _ => cases form

/-- A halfword that decodes to the short form of an ARM instruction has the same effect as that
instruction on the same registers in ARM state: on the registers of every mode, on every bit of the
status but the Thumb bit, on every saved status and on the bus. Neither of the two traps. -/
theorem decoded_agrees_with_armForm (half : Half)
    (isShort : (decode half).isShortForm = true) (m : Machine) :
    ∃ arm, (decode half).armForm? = some arm ∧
      let short := (decode half).execute m
      let long := arm.execute (m.mapRegs (·.setThumb false))
      (decode half).trap? = none ∧ arm.trap? = none ∧
        (∀ mode r, long.regs.banked mode r = short.regs.banked mode r) ∧
        long.regs.cpsr &&& ~~~Status.thumb = short.regs.cpsr &&& ~~~Status.thumb ∧
        (∀ mode, long.regs.savedStatus? mode = short.regs.savedStatus? mode) ∧
        long.bus = short.bus := by
  obtain ⟨arm, form⟩ := exists_armForm isShort
  refine ⟨arm, form, ?_⟩
  intro short long
  have traps := armForm?_trap? form
  have square : long = short.inArm := execute_armForm (lowRegisters_decode half) form m
  rw [square]
  refine ⟨traps.1, traps.2, ?_, ?_, ?_, rfl⟩
  · intro mode r
    exact banked_setFlag short.regs (by decide) false mode r
  · exact cpsr_setFlag_and short.regs (by decide) false
  · intro mode
    exact savedStatus?_setFlag short.regs Status.thumb false mode

/-- `PUSH {r0, lr}` of a console at power-on is `STMDB sp!, {r0, lr}`. -/
theorem push_agrees_with_armForm :
    let m : Machine := ⟨RegisterFile.powerOn.setThumb true, .powerOn⟩
    let short := (decode 0xB501).execute m
    let long := (Arm.Instruction.blockTransfer false false .decrementBefore .sp 0x4001).execute
      (m.mapRegs (·.setThumb false))
    (decode 0xB501).isShortForm = true ∧
      (∀ mode r, long.regs.banked mode r = short.regs.banked mode r) ∧ long.bus = short.bus := by
  intro m short long
  have isShort : (decode 0xB501).isShortForm = true := by decide
  have push : (decode 0xB501).armForm? =
      some (.blockTransfer false false .decrementBefore .sp 0x4001) := by decide
  obtain ⟨arm, form, _, _, registers, _, _, bus⟩ := decoded_agrees_with_armForm 0xB501 isShort m
  obtain rfl := Option.some.inj (push.symm.trans form)
  exact ⟨isShort, registers, bus⟩

end Handheld.Thumb
