import Handheld.Arm.Execute
import Handheld.Proofs.CheckedArithmetic

/-!
# Long products

A long multiplication in terms of products that are refused if they do not fit into 64 bits. No
product of two registers is, whether they are read with a sign or without
(`Arm.checkedMultiplyLong_eq`); the accumulated sum is meant to lose its carry.
-/

namespace Handheld.Arm

/-- The product of two words, as numbers with or without a sign. -/
def checkedProduct (signed : Bool) (first second : Word) : Option (BitVec 64) :=
  if signed then do
    let product ← signed64? (first.toInt * second.toInt)
    return BitVec.ofInt 64 product
  else do
    let product ← unsigned64? (first.toNat * second.toNat)
    return BitVec.ofNat 64 product

/-- Multiplies two registers into two others, with a product that has to fit. -/
def checkedMultiplyLong (signed accumulate setFlags : Bool) (rdHigh rdLow rs rm : RegNum)
    (regs : RegisterFile) : Option RegisterFile := do
  let product ← checkedProduct signed (read regs rm) (read regs rs)
  let value := if accumulate then product + (read regs rdHigh ++ read regs rdLow) else product
  let written := (regs.assign rdLow (value.setWidth 32)).assign rdHigh (value.extractLsb' 32 32)
  return if setFlags then FlagsUpdate.apply (.long value) written else written

theorem checkedProduct_eq (signed : Bool) (first second : Word) :
    checkedProduct signed first second =
      some (if signed then first.signExtend 64 * second.signExtend 64
        else first.setWidth 64 * second.setWidth 64) := by
  cases signed with
  | true =>
      have size := natAbs_mul_le (natAbs_toInt_le first) (natAbs_toInt_le second)
      have fits : (first.toInt * second.toInt).natAbs < 2 ^ 63 := by omega
      have product : BitVec.ofInt 64 (first.toInt * second.toInt) =
          first.signExtend 64 * second.signExtend 64 := BitVec.ofInt_mul _ _
      simp only [checkedProduct, ↓reduceIte, signed64?_of_natAbs_lt fits, Option.bind_eq_bind,
        Option.bind_some, product]
      rfl
  | false =>
      have size : first.toNat * second.toNat < 2 ^ 32 * 2 ^ 32 :=
        Nat.mul_lt_mul'' first.isLt second.isLt
      have product : BitVec.ofNat 64 (first.toNat * second.toNat) =
          first.setWidth 64 * second.setWidth 64 := by
        rw [BitVec.ofNat_mul, BitVec.ofNat_toNat, BitVec.ofNat_toNat]
      simp only [checkedProduct, Bool.false_eq_true, ↓reduceIte, unsigned64?_of_lt size,
        Option.bind_eq_bind, Option.bind_some, product]
      rfl

theorem checkedMultiplyLong_eq (signed accumulate setFlags : Bool) (rdHigh rdLow rs rm : RegNum)
    (regs : RegisterFile) :
    checkedMultiplyLong signed accumulate setFlags rdHigh rdLow rs rm regs =
      some (multiplyLong signed accumulate setFlags rdHigh rdLow rs rm regs) := by
  have product : checkedProduct signed (read regs rm) (read regs rs) = some
      ((if signed then (read regs rm).signExtend 64 else (read regs rm).setWidth 64) *
        if signed then (read regs rs).signExtend 64 else (read regs rs).setWidth 64) := by
    rw [checkedProduct_eq]
    cases signed <;> rfl
  rw [checkedMultiplyLong, product]
  rfl

end Handheld.Arm
