import Handheld.Proofs.Arm.BlockSemantics
import Handheld.Proofs.Thumb.ArmForm

/-!
# Thumb transfers as ARM transfers

The transfers of one register add base and offset and leave the base alone. The transfers of several
registers write the base back; `PUSH` may also store the link register, so its list is the one of
`Thumb.pushed`.
-/

namespace Handheld.Thumb

open RegisterFile

variable (regs : RegisterFile)

/-! ## Transfers of one register -/

/-- A store does not look at the instruction set. -/
@[simp] theorem inArm_storeUnit (byte : Bool) (address value : Word) (m : Machine) :
    m.inArm.storeUnit byte address value = (m.storeUnit byte address value).inArm := by
  cases byte <;> rfl

/-- A transfer at the sum of base and offset, which keeps the base, is the Thumb transfer at this
address. -/
theorem singleTransfer_inArm {rn rd : RegNum} (base : rn ≠ .pc) (destination : rd ≠ .pc)
    (load byte : Bool) (offset : Arm.TransferOffset) (m : Machine) :
    Arm.singleTransfer load byte .offset rn rd offset m.inArm =
      (transferUnit load byte (m.regs.get rn + offset.evaluate m.regs.inArm) rd m).inArm := by
  have start : Arm.read m.inArm.regs rn = m.regs.get rn := m.regs.inArm.operand_of_ne base .arm
  cases load with
  | true =>
      simp only [Arm.singleTransfer, transferUnit, start, ↓reduceIte]
      refine m.mapRegs_inArm ?_
      rw [assign_of_ne _ destination, assign_of_ne _ destination, inArm_set]
      rfl
  | false =>
      have value : Arm.readLate m.inArm.regs rd = m.regs.get rd :=
        m.regs.inArm.lateOperand_of_ne destination .arm
      have source : read m.regs rd = m.regs.get rd := m.regs.operand_of_ne destination .thumb
      simp only [Arm.singleTransfer, transferUnit, start, value, source, inArm_storeUnit,
        Bool.false_eq_true, ↓reduceIte]
      rfl

/-- Halfwords and signed units are transferred as by the ARM instruction with the same offset. One
case for each operation. -/
theorem halfwordTransfer_inArm {rn rd : RegNum} (base : rn ≠ .pc) (destination : rd ≠ .pc)
    (op : SignedTransfer) (offset : Arm.HalfwordOffset) (m : Machine) :
    (op.armForm rn rd offset).execute m.inArm =
      (transferSigned op (m.regs.get rn + offset.evaluate m.regs.inArm) rd m).inArm := by
  have start : Arm.read m.inArm.regs rn = m.regs.get rn := m.regs.inArm.operand_of_ne base .arm
  cases op with
  | storeHalfword =>
      have value : Arm.readLate m.inArm.regs rd = m.regs.get rd :=
        m.regs.inArm.lateOperand_of_ne destination .arm
      have source : read m.regs rd = m.regs.get rd := m.regs.operand_of_ne destination .thumb
      simp only [SignedTransfer.armForm, Arm.Instruction.execute, Arm.halfwordTransfer,
        transferSigned, start, value, source, Bool.false_eq_true, ↓reduceIte]
      rfl
  | loadHalfword | loadSignedByte | loadSignedHalfword =>
      simp only [SignedTransfer.armForm, Arm.Instruction.execute, Arm.halfwordTransfer,
        transferSigned, start, ↓reduceIte]
      refine m.mapRegs_inArm ?_
      rw [assign_of_ne _ destination, assign_of_ne _ destination, inArm_set]
      rfl

/-! ## Transfers of several registers -/

/-- A load of registers other than `r15` is the same in both forms, as it does not look at the
instruction set. By induction on the slots. -/
theorem loadBlock_inArm {slots : List (Word × RegNum)} (low : AllLow (slots.map (·.2)))
    (bus : Bus) :
    Arm.loadBlock false false slots bus regs.inArm = (loadSlots slots bus regs).inArm := by
  induction slots generalizing regs with
  | nil => rfl
  | cons slot rest ih =>
      obtain ⟨address, r⟩ := slot
      rw [List.map_cons, allLow_cons] at low
      have notPc : r ≠ .pc := RegNum.ne_of_low low.1 (by decide)
      have first : (regs.assign r (bus.read32 address)).inArm =
          regs.inArm.set r (bus.read32 address) := by
        rw [assign_of_ne _ notPc, inArm_set]
      rw [Arm.loadBlock_cons address notPc, ← first]
      exact ih _ low.2

/-- A register that is not loaded can be written before a load or after it. ARM moves the base first
and Thumb after it. -/
theorem loadSlots_set_comm {slots : List (Word × RegNum)} (low : AllLow (slots.map (·.2)))
    {r : RegNum} (above : 8 ≤ r.val) (bus : Bus) (value : Word) :
    (loadSlots slots bus regs).set r value = loadSlots slots bus (regs.set r value) := by
  induction slots generalizing regs with
  | nil => rfl
  | cons slot rest ih =>
      obtain ⟨address, loaded⟩ := slot
      rw [List.map_cons, allLow_cons] at low
      have notPc : loaded ≠ .pc := RegNum.ne_of_low low.1 (by decide)
      have different : loaded ≠ r := RegNum.ne_of_low low.1 above
      have first : (regs.assign loaded (bus.read32 address)).set r value =
          (regs.set r value).assign loaded (bus.read32 address) := by
        rw [assign_of_ne _ notPc, assign_of_ne _ notPc, regs.set_comm different]
      exact (ih _ low.2).trans (congrArg (loadSlots rest bus) first)

/-- A list that is not empty is not empty as an ARM list either. -/
theorem setWidth_ne_zero {registers : Byte} (nonempty : registers ≠ 0) :
    registers.setWidth 16 ≠ 0 := by
  intro zero
  apply nonempty
  have back := congrArg (BitVec.setWidth 8) zero
  rwa [BitVec.setWidth_setWidth_of_le _ (by decide), BitVec.setWidth_eq] at back

/-- A load of several registers moves the base before it loads, as the ARM form does it, and ends
with the same machine. -/
theorem loadMultiple_inArm {rn : RegNum} (base : rn ≠ .pc) {registers : Byte}
    (nonempty : registers ≠ 0) (m : Machine) :
    Arm.blockTransfer true false .incrementAfter rn (registers.setWidth 16) m.inArm =
      Machine.inArm
        { m with
          regs := loadSlots (transferSlots (m.regs.get rn) (listedLow registers)) m.bus
            (m.regs.set rn (m.regs.get rn + spanOf (listedLow registers))) } := by
  have low : AllLow ((transferSlots (m.regs.get rn) (listedLow registers)).map (·.2)) := by
    rw [snd_transferSlots]
    exact allLow_listedRegisters registers
  rw [Arm.blockTransfer_load base rfl (Arm.block_incrementAfter (setWidth_ne_zero nonempty))]
  exact congrArg (Machine.mk · m.bus)
    (loadBlock_inArm (m.regs.set rn (m.regs.get rn + spanOf (listedLow registers))) low m.bus)

/-- `POP` without `r15` is an ARM block load from the stack, with the stack pointer written back. -/
theorem pop_inArm {registers : Byte} (nonempty : registers ≠ 0) (m : Machine) :
    Arm.blockTransfer true false .incrementAfter .sp (registers.setWidth 16) m.inArm =
      (pop false registers m).inArm := by
  have low : AllLow ((transferSlots (m.regs.get .sp) (listedLow registers)).map (·.2)) := by
    rw [snd_transferSlots]
    exact allLow_listedRegisters registers
  rw [loadMultiple_inArm sp_ne_pc nonempty, ← loadSlots_set_comm _ low (by decide)]
  simp only [pop, Bool.false_eq_true, ↓reduceIte, List.append_nil]

/-- In the ARM list of a `PUSH` the return address comes after the low registers, as the highest
number. -/
theorem listedRegisters_pushed (link : Bool) (registers : Byte) :
    listedRegisters (pushed link registers) =
      listedLow registers ++ if link then [RegNum.lr] else [] := by
  cases link with
  | true => exact listedRegisters_or_twoPow registers .lr (by decide)
  | false =>
      have whole : pushed false registers = registers.setWidth 16 := BitVec.or_zero
      rw [whole]
      exact (List.append_nil _).symm

/-- A `PUSH` that transfers something has an ARM list that is not empty, so that the special case of
an empty list does not come up. -/
theorem pushed_ne_zero {link : Bool} {registers : Byte}
    (transferred : ¬(registers = 0 ∧ link = false)) : pushed link registers ≠ 0 := by
  intro zero
  have empty (r : RegNum) : r ∉ listedRegisters (pushed link registers) := by
    rw [zero]
    revert r
    decide
  cases link with
  | true =>
      refine empty .lr ?_
      rw [listedRegisters_pushed]
      exact List.mem_append_right _ (List.mem_singleton_self _)
  | false =>
      have whole : pushed false registers = registers.setWidth 16 := BitVec.or_zero
      exact setWidth_ne_zero (fun none => transferred ⟨none, rfl⟩) (whole.symm.trans zero)

/-- `PUSH` is an ARM block store to the stack. The link register has the highest number of its list
and so the highest address. -/
theorem push_inArm {link : Bool} {registers : Byte} (nonempty : pushed link registers ≠ 0)
    (m : Machine) :
    Arm.blockTransfer false false .decrementBefore .sp (pushed link registers) m.inArm =
      (push link registers m).inArm := by
  have listed := listedRegisters_pushed link registers
  have member : ∀ r ∈ listedRegisters (pushed link registers), r ≠ .pc ∧ r ≠ .sp := by
    intro r member
    rw [listed, List.mem_append] at member
    rcases member with low | linked
    · have low := allLow_listedRegisters registers r low
      exact ⟨RegNum.ne_of_low low (by decide), RegNum.ne_of_low low (by decide)⟩
    · cases link with
      | false => exact absurd linked List.not_mem_nil
      | true =>
          rw [List.mem_singleton.mp linked]
          decide
  rw [Arm.blockTransfer_store_of_notMem sp_ne_pc rfl (Arm.block_decrementBefore nonempty)]
  · simp only [listed]
    rfl
  · rw [snd_transferSlots]
    exact fun r present => (member r present).1
  · rw [snd_transferSlots]
    exact fun present => (member .sp present).2 rfl

/-- A multiple transfer is the ARM one that increments after, also with the base in the list, be it
loaded or stored. -/
theorem multipleTransfer_inArm {rb : RegNum} (base : rb ≠ .pc) {registers : Byte}
    (nonempty : registers ≠ 0) (load : Bool) (m : Machine) :
    Arm.blockTransfer load false .incrementAfter rb (registers.setWidth 16) m.inArm =
      (multipleTransfer load rb registers m).inArm := by
  have start : read m.regs rb = m.regs.get rb := m.regs.operand_of_ne base .thumb
  cases load with
  | true =>
      rw [loadMultiple_inArm base nonempty]
      simp only [multipleTransfer, nonempty, start, writeBack_of_ne _ base, ↓reduceIte]
  | false =>
      rw [Arm.blockTransfer_store base rfl (Arm.block_incrementAfter (setWidth_ne_zero nonempty))]
      · simp only [multipleTransfer, nonempty, start, writeBack_of_ne _ base, snd_transferSlots,
          Bool.false_eq_true, ↓reduceIte]
        rfl
      · rw [snd_transferSlots]
        intro r member
        exact RegNum.ne_of_low (allLow_listedRegisters registers r member) (by decide)

end Handheld.Thumb
