import Handheld.Arm.Execute
import Handheld.Proofs.Cpu.Registers

/-!
# Data processing without branches

A data-processing instruction on registers other than `r15` either tests, or writes one register,
and sets the flags if it is asked to.
-/

namespace Handheld

theorem Adder.value_add (a b : Word) : (add a b false).value = a + b := by
  apply BitVec.eq_of_toNat_eq
  rw [add, BitVec.toNat_ofNat, BitVec.toNat_add, Bool.toNat_false, Nat.add_zero]

theorem Adder.value_sub (a b : Word) : (sub a b).value = a - b := by
  have complement : ~~~b + 1 = -b := (BitVec.neg_eq_not_add b).symm
  apply BitVec.eq_of_toNat_eq
  rw [BitVec.sub_eq_add_neg, ← complement, ← BitVec.add_assoc]
  simp [sub, add, BitVec.toNat_add]

namespace Arm

variable (regs : RegisterFile)

/-- An operation that writes a register other than `r15` and sets the flags. Its operand is not
shifted by a register, as then `r15` would be read further ahead. -/
theorem dataProcessing_setFlags (opcode : Opcode) (computes : opcode.isTest = false) (rn : RegNum)
    {rd : RegNum} (notPc : rd ≠ .pc) {operand : Operand}
    (shift : operand.shiftsByRegister = false) :
    dataProcessing opcode true rn rd operand regs =
      let (value, flags) := opcode.compute (read regs rn) (operand.evaluate regs)
        (regs.flag Status.carry)
      flags.apply (regs.set rd value) := by
  simp only [dataProcessing, shift, computes, notPc, Bool.false_eq_true, ↓reduceIte]

/-- An operation that writes a register other than `r15` and leaves the flags alone, with an operand
of the same kind. -/
theorem dataProcessing_keepFlags (opcode : Opcode) (computes : opcode.isTest = false) (rn : RegNum)
    {rd : RegNum} (notPc : rd ≠ .pc) {operand : Operand}
    (shift : operand.shiftsByRegister = false) :
    dataProcessing opcode false rn rd operand regs =
      regs.set rd (opcode.compute (read regs rn) (operand.evaluate regs)
        (regs.flag Status.carry)).1 := by
  simp only [dataProcessing, shift, computes, notPc, Bool.false_eq_true, ↓reduceIte]

/-- A test sets the flags only, whatever register its unused field names. -/
theorem dataProcessing_test (opcode : Opcode) (tests : opcode.isTest = true) (rn rd : RegNum)
    {operand : Operand} (shift : operand.shiftsByRegister = false) :
    dataProcessing opcode true rn rd operand regs =
      (opcode.compute (read regs rn) (operand.evaluate regs)
        (regs.flag Status.carry)).2.apply regs := by
  simp only [dataProcessing, shift, tests, Bool.false_eq_true, ↓reduceIte]

end Arm

end Handheld
