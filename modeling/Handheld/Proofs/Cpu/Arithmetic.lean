import Handheld.Cpu.Step
import Handheld.Proofs.Arm.DataProcessing
import Handheld.Proofs.Cpu.Adder

/-!
# Arithmetic instructions and the conditions after them

Both instruction sets have instructions that set all four flags from the adder. Which operation such
an instruction asks for, of which operands and into which register, is told from its form and the
registers alone (`Arm.Instruction.arithmetic?`, `Thumb.Instruction.arithmetic?`), and
`Machine.step_of_arithmetic?` says that to execute it is to perform that operation. After a
difference each condition means the comparison it is named for (`Condition.passes_iff_compares`);
`Machine.conditions_after_arithmetic` says so of every instruction, and what carry and overflow mean
after the other operations.
-/

namespace Handheld

/-! ## Flags -/

/-- The four flags are those of a result of the adder. -/
structure RegisterFile.FlagsOf (regs : RegisterFile) (result : Adder.Result) : Prop where
  negative : regs.flag Status.negative = result.value.msb
  zero : regs.flag Status.zero = (result.value == 0)
  carry : regs.flag Status.carry = result.carry
  overflow : regs.flag Status.overflow = result.overflow

open RegisterFile in
theorem FlagsUpdate.flagsOf_apply (result : Adder.Result) (regs : RegisterFile) :
    ((arithmetic result).apply regs).FlagsOf result where
  negative := by
    simp (disch := decide) only [apply, setSignZero, flag_setFlag_of_disjoint, flag_setFlag_self]
  zero := by
    simp (disch := decide) only [apply, setSignZero, flag_setFlag_of_disjoint, flag_setFlag_self]
  carry := by
    simp (disch := decide) only [apply, flag_setFlag_of_disjoint, flag_setFlag_self]
  overflow := by simp (disch := decide) only [apply, flag_setFlag_self]

/-! ## Conditions -/

/-- What each condition says of two words that were compared. -/
def Condition.Compares (condition : Condition) (a b : Word) : Prop :=
  match condition with
  | eq => a = b
  | ne => a ≠ b
  | cs => b.toNat ≤ a.toNat
  | cc => a.toNat < b.toNat
  | mi => (a - b).toInt < 0
  | pl => 0 ≤ (a - b).toInt
  | vs => ¬ Word.FitsSigned (a.toInt - b.toInt)
  | vc => Word.FitsSigned (a.toInt - b.toInt)
  | hi => b.toNat < a.toNat
  | ls => a.toNat ≤ b.toNat
  | ge => b.toInt ≤ a.toInt
  | lt => a.toInt < b.toInt
  | gt => b.toInt < a.toInt
  | le => a.toInt ≤ b.toInt
  | al => True
  | nv => False

/-- The sign of a difference tells which number is the smaller one, unless the difference overflows,
and then it tells the opposite. -/
theorem Word.sign_sub (a b : Word) :
    ((a - b).toInt < 0 ↔ ¬ FitsSigned (a.toInt - b.toInt)) ↔ b.toInt ≤ a.toInt := by
  have difference : (a - b).toInt = (a.toInt - b.toInt).bmod (2 ^ 32) := BitVec.toInt_sub
  have lowA := a.le_toInt
  have highA := a.toInt_lt
  have lowB := b.le_toInt
  have highB := b.toInt_lt
  rw [difference, FitsSigned, Int.bmod_def]
  omega

variable {regs : RegisterFile} {a b : Word}

/-- After a difference every condition means the comparison it is named for. One case for each
condition, the signed ones by the sign and the overflow together. -/
theorem Condition.passes_iff_compares (flags : regs.FlagsOf (Adder.sub a b))
    (condition : Condition) : condition.passes regs.cpsr = true ↔ condition.Compares a b := by
  -- The four flags, as the condition reads them from the status.
  have negative : (regs.cpsr &&& Status.negative != 0) = decide ((a - b).toInt < 0) :=
    flags.negative.trans (by rw [Adder.value_sub, BitVec.msb_eq_toInt])
  have zero : (regs.cpsr &&& Status.zero != 0) = decide (a.toNat = b.toNat) := by
    refine flags.zero.trans ?_
    rw [Adder.value_sub, Bool.eq_iff_iff, beq_iff_eq, decide_eq_true_iff,
      BitVec.sub_eq_iff_eq_add, BitVec.toNat_inj]
    exact iff_of_eq (congrArg (a = ·) (BitVec.zero_add b))
  have carry : (regs.cpsr &&& Status.carry != 0) = decide (b.toNat ≤ a.toNat) := by
    refine flags.carry.trans ?_
    rw [Bool.eq_iff_iff, decide_eq_true_iff]
    exact (Adder.Operation.sub.carry_result a b false).trans (Int.sub_nonneg.trans Int.ofNat_le)
  have overflow : (regs.cpsr &&& Status.overflow != 0) =
      decide (¬ Word.FitsSigned (a.toInt - b.toInt)) := by
    refine flags.overflow.trans ?_
    rw [Bool.eq_iff_iff, decide_eq_true_iff]
    exact Adder.Operation.sub.overflow_result a b false
  have sign := Word.sign_sub a b
  have same : a = b ↔ a.toNat = b.toNat := BitVec.toNat_inj.symm
  have signed : a.toInt = b.toInt ↔ a.toNat = b.toNat := BitVec.toInt_inj.trans same
  cases condition with
  | eq | ne =>
      simp only [passes, Compares, zero, same, ne_eq, Bool.not_eq_true', decide_eq_true_iff,
        decide_eq_false_iff_not]
  | cs => simp only [passes, Compares, carry, decide_eq_true_iff]
  | cc | hi | ls =>
      simp only [passes, Compares, zero, carry, Bool.and_eq_true, Bool.or_eq_true,
        Bool.not_eq_true', decide_eq_true_iff, decide_eq_false_iff_not]
      omega
  | mi | pl | vs | vc =>
      simp only [passes, Compares, negative, overflow, Bool.not_eq_true', decide_eq_true_iff,
        decide_eq_false_iff_not, Int.not_lt, Decidable.not_not]
  | ge =>
      simp only [passes, Compares, negative, overflow, beq_iff_eq, decide_eq_decide, sign]
  | lt | gt | le =>
      simp only [passes, Compares, zero, negative, overflow, Bool.and_eq_true, Bool.or_eq_true,
        Bool.not_eq_true', beq_iff_eq, bne_iff_ne, ne_eq, decide_eq_decide, decide_eq_true_iff,
        decide_eq_false_iff_not, sign]
      omega
  | al => exact iff_of_true rfl trivial
  | nv => exact iff_of_false Bool.false_ne_true id

/-! ## Arithmetic instructions -/

/-- An operation of the adder, its operands and the register that takes the result. A comparison
has no such register. -/
structure Arithmetic where
  operation : Adder.Operation
  first : Word
  second : Word
  destination? : Option RegNum
  deriving DecidableEq, Repr

namespace Arithmetic

variable (work : Arithmetic)

def result (carry : Bool) : Adder.Result := work.operation.result work.first work.second carry

/-- Writes the result, if it has a place, and sets all four flags from it. -/
def perform (regs : RegisterFile) : RegisterFile :=
  let result := work.result (regs.flag Status.carry)
  FlagsUpdate.apply (.arithmetic result)
    (match work.destination? with
      | some rd => regs.assign rd result.value
      | none => regs)

theorem flagsOf_perform (regs : RegisterFile) :
    (work.perform regs).FlagsOf (work.result (regs.flag Status.carry)) :=
  FlagsUpdate.flagsOf_apply _ _

end Arithmetic

namespace Arm

/-- The arithmetic of an operation. The reverse operations exchange their operands. -/
def Opcode.arithmetic? (opcode : Opcode) (first second : Word) (destination? : Option RegNum) :
    Option Arithmetic :=
  match opcode with
  | sub | cmp => some ⟨.sub, first, second, destination?⟩
  | rsb => some ⟨.sub, second, first, destination?⟩
  | add | cmn => some ⟨.add, first, second, destination?⟩
  | adc => some ⟨.addCarry, first, second, destination?⟩
  | sbc => some ⟨.subBorrow, first, second, destination?⟩
  | rsc => some ⟨.subBorrow, second, first, destination?⟩
  | and | eor | tst | teq | orr | mov | bic | mvn => none

/-- The arithmetic of an instruction that sets the flags from it: of a comparison, and of an
operation that is asked to set the flags. Where the result goes to `r15` the flags come from the
saved status instead. -/
def Instruction.arithmetic? (instruction : Instruction) (regs : RegisterFile) :
    Option Arithmetic :=
  match instruction with
  | .dataProcessing opcode setFlags rn rd operand =>
    let first := if operand.shiftsByRegister then readLate regs rn else read regs rn
    let second := (operand.evaluate regs).value
    if opcode.isTest then opcode.arithmetic? first second none
    else if setFlags ∧ rd ≠ .pc then opcode.arithmetic? first second (some rd)
    else none
  | _ => none

theorem compute_of_arithmetic? {opcode : Opcode} {first : Word} {second : Shifted}
    {destination? : Option RegNum} {work : Arithmetic}
    (arithmetic : opcode.arithmetic? first second.value destination? = some work)
    (carry : Bool) :
    opcode.compute first second carry =
        ((work.result carry).value, .arithmetic (work.result carry)) ∧
      work.destination? = destination? := by
  cases opcode with
  | sub | rsb | add | adc | sbc | rsc | cmp | cmn =>
      obtain rfl := Option.some.inj arithmetic
      exact ⟨rfl, rfl⟩
  | and | eor | tst | teq | orr | mov | bic | mvn => cases arithmetic

theorem execute_of_arithmetic? {instruction : Instruction} {m : Machine} {work : Arithmetic}
    (arithmetic : instruction.arithmetic? m.regs = some work) :
    instruction.execute m = m.mapRegs work.perform ∧ instruction.trap? = none := by
  cases instruction with
  | dataProcessing opcode setFlags rn rd operand =>
      refine ⟨congrArg (Machine.mk · m.bus) ?_, rfl⟩
      show Arm.dataProcessing opcode setFlags rn rd operand m.regs = _
      simp only [Instruction.arithmetic?] at arithmetic
      unfold Arm.dataProcessing Arithmetic.perform
      dsimp only
      split at arithmetic
      · rename_i tests
        obtain ⟨computed, destination⟩ :=
          compute_of_arithmetic? arithmetic (m.regs.flag Status.carry)
        rw [if_pos tests, computed, destination]
      · rename_i computes
        split at arithmetic
        · rename_i sets
          obtain ⟨computed, destination⟩ :=
            compute_of_arithmetic? arithmetic (m.regs.flag Status.carry)
          rw [if_neg computes, if_neg sets.2, if_pos sets.1, computed, destination]
          exact congrArg _ (m.regs.assign_of_ne sets.2 _).symm
        · cases arithmetic
  | _ => cases arithmetic

end Arm

namespace Thumb

/-- The arithmetic of an instruction that sets the flags from it. -/
def Instruction.arithmetic? (instruction : Instruction) (regs : RegisterFile) :
    Option Arithmetic :=
  match instruction with
  | .addSubtract subtract operand rs rd =>
    some ⟨if subtract then .sub else .add, read regs rs, operand.evaluate regs, some rd⟩
  | immediate .add rd value => some ⟨.add, read regs rd, value.setWidth 32, some rd⟩
  | immediate .sub rd value => some ⟨.sub, read regs rd, value.setWidth 32, some rd⟩
  | immediate .cmp rd value => some ⟨.sub, read regs rd, value.setWidth 32, none⟩
  | alu .adc rs rd => some ⟨.addCarry, read regs rd, read regs rs, some rd⟩
  | alu .sbc rs rd => some ⟨.subBorrow, read regs rd, read regs rs, some rd⟩
  | alu .neg rs rd => some ⟨.sub, 0, read regs rs, some rd⟩
  | alu .cmp rs rd => some ⟨.sub, read regs rd, read regs rs, none⟩
  | alu .cmn rs rd => some ⟨.add, read regs rd, read regs rs, none⟩
  | hiRegister .cmp rs rd => some ⟨.sub, read regs rd, read regs rs, none⟩
  | _ => none

theorem execute_of_arithmetic? {instruction : Instruction} {m : Machine} {work : Arithmetic}
    (arithmetic : instruction.arithmetic? m.regs = some work) :
    instruction.execute m = m.mapRegs work.perform ∧ instruction.trap? = none := by
  cases instruction with
  | addSubtract subtract operand rs rd =>
      obtain rfl := Option.some.inj arithmetic
      refine ⟨congrArg (Machine.mk · m.bus) ?_, rfl⟩
      cases subtract <;>
        simp only [addSubtract, writeSum, Arithmetic.perform, Arithmetic.result,
          Adder.Operation.result, Bool.false_eq_true, ↓reduceIte]
  | immediate op rd value =>
      cases op with
      | add | sub | cmp =>
          obtain rfl := Option.some.inj arithmetic
          refine ⟨congrArg (Machine.mk · m.bus) ?_, rfl⟩
          simp only [immediateOperation, writeSum, compare, Arithmetic.perform, Arithmetic.result,
            Adder.Operation.result]
      | mov => cases arithmetic
  | alu op rs rd =>
      cases op with
      | adc | sbc | neg | cmp | cmn =>
          obtain rfl := Option.some.inj arithmetic
          refine ⟨congrArg (Machine.mk · m.bus) ?_, rfl⟩
          simp only [aluOperation, writeSum, compare, Arithmetic.perform, Arithmetic.result,
            Adder.Operation.result]
      | _ => cases arithmetic
  | hiRegister op rs rd =>
      cases op with
      | cmp =>
          obtain rfl := Option.some.inj arithmetic
          refine ⟨congrArg (Machine.mk · m.bus) ?_, rfl⟩
          simp only [hiRegisterOperation, compare, Arithmetic.perform, Arithmetic.result,
            Adder.Operation.result]
      | add | mov => cases arithmetic
  | _ => cases arithmetic

end Thumb

/-! ## One instruction -/

namespace Machine

/-- The arithmetic of the instruction at `r15`, if it sets the flags from any and its condition
passes. -/
def arithmetic? (m : Machine) : Option Arithmetic :=
  if m.regs.thumb then (Thumb.decode m.fetchHalf).arithmetic? (m.advance .thumb).regs
  else
    let decoded := Arm.decode m.fetchWord
    let regs := (m.advance .arm).regs
    if decoded.condition.passes regs.cpsr then decoded.instruction.arithmetic? regs else none

/-- An arithmetic instruction performs its operation on the registers and does nothing else. It
stores nothing and does not branch. -/
theorem step_of_arithmetic? {m : Machine} {work : Arithmetic}
    (arithmetic : m.arithmetic? = some work) :
    m.step.2 = (m.advance m.regs.instructionSet).mapRegs work.perform := by
  unfold arithmetic? at arithmetic
  unfold step RegisterFile.instructionSet
  split at arithmetic
  · rename_i thumb
    obtain ⟨executes, noTrap⟩ := Thumb.execute_of_arithmetic? arithmetic
    rw [if_pos thumb, if_pos thumb, stepThumb]
    simp only [noTrap, executes]
  · rename_i arm
    dsimp only at arithmetic
    split at arithmetic
    · rename_i passes
      obtain ⟨executes, noTrap⟩ := Arm.execute_of_arithmetic? arithmetic
      rw [if_neg arm, if_neg arm, stepArm]
      simp only [passes, noTrap, executes, Bool.not_true, Bool.false_eq_true, ↓reduceIte]
    · cases arithmetic

/-- The flags after an arithmetic instruction are those of its result. -/
theorem flagsOf_step {m : Machine} {work : Arithmetic} (arithmetic : m.arithmetic? = some work) :
    m.step.2.regs.FlagsOf (work.result (m.regs.flag Status.carry)) := by
  rw [step_of_arithmetic? arithmetic]
  exact work.flagsOf_perform (m.advance m.regs.instructionSet).regs

/-- What the conditions mean after an arithmetic instruction of either set, whatever its operands
and the status before. After a difference, which is what a comparison computes, each condition
passes exactly when the comparison that it is named for holds of the operands. After every operation
the carry tells whether the unsigned result leaves the word, or whether a difference does without a
borrow, and the overflow that the signed result does not fit. -/
theorem conditions_after_arithmetic {m : Machine} {work : Arithmetic}
    (arithmetic : m.arithmetic? = some work) :
    let carry := m.regs.flag Status.carry
    let status := m.step.2.regs.cpsr
    (work.operation = .sub → ∀ condition : Condition,
        condition.passes status = true ↔ condition.Compares work.first work.second) ∧
      (Condition.cs.passes status = true ↔ work.operation.Carries
        (work.operation.exact work.first.toNat work.second.toNat carry)) ∧
      (Condition.vs.passes status = true ↔ ¬ Word.FitsSigned
        (work.operation.exact work.first.toInt work.second.toInt carry)) := by
  intro carry status
  have flags := flagsOf_step arithmetic
  refine ⟨fun difference => ?_, ?_, ?_⟩
  · rw [Arithmetic.result, difference] at flags
    exact Condition.passes_iff_compares flags
  · rw [← work.operation.carry_result work.first work.second carry]
    exact iff_of_eq (congrArg (· = true) flags.carry)
  · rw [← work.operation.overflow_result work.first work.second carry]
    exact iff_of_eq (congrArg (· = true) flags.overflow)

/-- `CMP r0, r1` in the game pak, where `r0` holds the lowest signed number and `r1` one: the first
operand is the lower one as a signed number and the higher one as an unsigned number, and the signed
difference overflows. -/
theorem lowest_compared_with_one :
    let regs := ((RegisterFile.powerOn.set 0 0x80000000).set 1 1).setPc 0x08000000
    let m : Machine := ⟨regs, { Bus.powerOn with gamePak := #[0x01, 0x00, 0x50, 0xE1] }⟩
    let status := m.step.2.regs.cpsr
    m.arithmetic? = some ⟨.sub, 0x80000000, 1, none⟩ ∧ Condition.lt.passes status = true ∧
      Condition.hi.passes status = true ∧ Condition.vs.passes status = true := by
  intro regs m status
  have compares : m.arithmetic? = some ⟨.sub, 0x80000000, 1, none⟩ := by decide
  obtain ⟨conditions, -, overflow⟩ := conditions_after_arithmetic compares
  have lower : (0x80000000 : Word).toInt < (1 : Word).toInt := by decide
  have higher : (1 : Word).toNat < (0x80000000 : Word).toNat := by decide
  exact ⟨compares, (conditions rfl .lt).mpr lower, (conditions rfl .hi).mpr higher,
    overflow.mpr (by decide)⟩

end Machine

end Handheld
