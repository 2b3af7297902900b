import Handheld.Proofs.Cpu.Arithmetic
import Handheld.Proofs.Cpu.WellFormed
import Handheld.Proofs.Thumb.LowRegisters
import Mathlib.Data.Nat.Digits.Defs
import Mathlib.Logic.Relation

/-!
# Carry chains

A number of several words is added or subtracted limb by limb, each limb taking the carry that the
one below it left (`Machine.Chain`). The results so far and the carry together are the exact result
of the limbs so far, and the limb on top alone decides sign and signed overflow. One more limb keeps
this (`Limbs.Worked.push`), so that it holds after any chain (`Machine.Chain.worked`), and
`Machine.multiword_of_chain` draws the limbs of the result and the flags from it.
-/

namespace Handheld

/-! ## Numbers of several words -/

namespace Limbs

variable {n : Nat}

/-- The number that limbs make up, the lowest one first. -/
def number (limbs : Vector Word n) : BitVec (32 * n) :=
  BitVec.ofNat _ (Nat.ofDigits (2 ^ 32) (limbs.toList.map BitVec.toNat))

/-- The limbs of a number, the lowest one first. -/
def ofNumber (number : BitVec (32 * n)) : Vector Word n :=
  Vector.ofFn fun i => number.extractLsb' (32 * i) 32

/-- The limbs of a number are digits to the base 2³². -/
theorem lt_of_mem_digits (limbs : Vector Word n) :
    ∀ digit ∈ limbs.toList.map BitVec.toNat, digit < 2 ^ 32 := by
  intro digit member
  obtain ⟨limb, -, rfl⟩ := List.mem_map.mp member
  exact limb.isLt

/-- The value of a number is that of its limbs as digits to the base 2³², the lowest first. -/
theorem toNat_number (limbs : Vector Word n) :
    (number limbs).toNat = Nat.ofDigits (2 ^ 32) (limbs.toList.map BitVec.toNat) := by
  have bound := Nat.ofDigits_lt_base_pow_length (by decide) (lt_of_mem_digits limbs)
  rw [List.length_map, Vector.length_toList, ← Nat.pow_mul] at bound
  exact Nat.mod_eq_of_lt bound

/-- A further limb counts 2³² to the power of the number of limbs below it. -/
theorem toNat_number_push (limbs : Vector Word n) (top : Word) :
    (number (limbs.push top)).toNat = (number limbs).toNat + 2 ^ (32 * n) * top.toNat := by
  rw [toNat_number, toNat_number, Vector.toList_push, List.map_append, Nat.ofDigits_append,
    List.length_map, Vector.length_toList, ← Nat.pow_mul, List.map_singleton,
    Nat.ofDigits_singleton]

/-- A limb on top goes above the number of the others. -/
theorem number_push (limbs : Vector Word n) (top : Word) :
    number (limbs.push top) = (top ++ number limbs).cast (Nat.add_comm 32 (32 * n)) := by
  refine BitVec.eq_of_toNat_eq ?_
  rw [toNat_number_push, BitVec.toNat_cast, BitVec.toNat_append,
    ← Nat.shiftLeft_add_eq_or_of_lt (number limbs).isLt, Nat.shiftLeft_eq,
    Nat.mul_comm top.toNat, Nat.add_comm]

theorem toInt_cast {width other : Nat} (same : width = other) (number : BitVec width) :
    (number.cast same).toInt = number.toInt := by
  cases same
  rfl

/-- As a signed number, only the highest limb is signed. The limbs below it count as they are. -/
theorem toInt_number_push (limbs : Vector Word n) (top : Word) :
    (number (limbs.push top)).toInt = (number limbs).toNat + 2 ^ (32 * n) * top.toInt := by
  rw [number_push, toInt_cast, BitVec.toInt_append, Int.add_comm]
  push_cast
  rfl

/-- The sign of a number is that of its highest limb. -/
theorem msb_number_push (limbs : Vector Word n) (top : Word) :
    (number (limbs.push top)).msb = top.msb := by
  rw [number_push, BitVec.msb_cast, BitVec.msb_append]
  rfl

/-- Cutting a number into limbs gives back the limbs that it was made of, so that a chain can be
said to compute a number. -/
theorem ofNumber_number (limbs : Vector Word n) : ofNumber (number limbs) = limbs := by
  refine Vector.ext fun i bound => BitVec.eq_of_toNat_eq ?_
  rw [ofNumber, Vector.getElem_ofFn, BitVec.extractLsb'_toNat, toNat_number,
    Nat.shiftRight_eq_div_pow, Nat.pow_mul,
    Nat.ofDigits_div_pow_eq_ofDigits_drop i (by decide) _ (lt_of_mem_digits limbs)]
  have inside : i < limbs.toList.length := by rwa [Vector.length_toList]
  rw [← List.map_drop, List.drop_eq_getElem_cons inside, List.map_cons, Nat.ofDigits_cons,
    Nat.add_mul_mod_self_left, Vector.getElem_toList, Nat.mod_eq_of_lt limbs[i].isLt]

/-! ## One more limb -/

/-- The sum or the difference of two numbers. -/
def combine (subtracts : Bool) (a b : Int) : Int := if subtracts then a - b else a + b

/-- The operation on the lowest limbs. -/
def lowestOperation (subtracts : Bool) : Adder.Operation := if subtracts then .sub else .add

/-- The operation on the limbs above, which takes the carry in. -/
def nextOperation (subtracts : Bool) : Adder.Operation :=
  if subtracts then .subBorrow else .addCarry

@[simp] theorem subtracts_lowestOperation (subtracts : Bool) :
    (lowestOperation subtracts).subtracts = subtracts := by
  cases subtracts <;> rfl

@[simp] theorem subtracts_nextOperation (subtracts : Bool) :
    (nextOperation subtracts).subtracts = subtracts := by
  cases subtracts <;> rfl

/-- The lowest limbs are combined without a carry, whatever the carry flag says. -/
theorem exact_lowestOperation (subtracts carry : Bool) (a b : Int) :
    (lowestOperation subtracts).exact a b carry = combine subtracts a b + 0 := by
  rw [Int.add_zero]
  cases subtracts <;> rfl

/-- Every other pair of limbs is combined with the carry that the pair below has left, which for
differences is the absence of a borrow. -/
theorem exact_nextOperation (subtracts carry : Bool) (a b : Int) :
    (nextOperation subtracts).exact a b carry =
      combine subtracts a b + Adder.Operation.carried subtracts carry := by
  cases subtracts with
  | false => rfl
  | true =>
      show a - b - (1 - (carry.toNat : Int)) = a - b + (carry.toNat - 1)
      omega

/-- What registers say after limbs were combined: the results and the carry are the exact unsigned
result, and the overflow says whether the signed one leaves as many limbs. -/
structure Worked (subtracts : Bool) (a b results : Vector Word n) (regs : RegisterFile) : Prop where
  whole : combine subtracts (number a).toNat (number b).toNat = (number results).toNat +
    2 ^ (32 * n) * Adder.Operation.carried subtracts (regs.flag Status.carry)
  negative : regs.flag Status.negative = (number results).msb
  overflow : regs.flag Status.overflow = true ↔
    2 ^ (32 * n - 1) ≤ combine subtracts (number a).toInt (number b).toInt ∨
      combine subtracts (number a).toInt (number b).toInt < -2 ^ (32 * n - 1)

/-- Sum and difference can be taken of low and high parts separately, with the high part scaled.
This is what carries the step from limbs to numbers. -/
theorem combine_add_mul (subtracts : Bool) (a b x y scale : Int) :
    combine subtracts (a + scale * x) (b + scale * y) =
      combine subtracts a b + scale * combine subtracts x y := by
  cases subtracts <;> simp only [combine, Bool.false_eq_true, ↓reduceIte] <;> ring

/-- A number of limbs is outside the signed range exactly when the part above the lower limbs is
outside that of a word. -/
theorem outside_iff (low : BitVec (32 * n)) (top : Int) :
    2 ^ (32 * (n + 1) - 1) ≤ low.toNat + 2 ^ (32 * n) * top ∨
        low.toNat + 2 ^ (32 * n) * top < -2 ^ (32 * (n + 1) - 1) ↔
      ¬ Word.FitsSigned top := by
  have positive : (0 : Int) < 2 ^ (32 * n) := by positivity
  have bound : (low.toNat : Int) < 2 ^ (32 * n) := by exact_mod_cast low.isLt
  have half : (2 : Int) ^ (32 * (n + 1) - 1) = 2 ^ 31 * 2 ^ (32 * n) := by
    rw [← pow_add]
    congr 1
    omega
  have above : (low.toNat + 2 ^ (32 * n) * top) / 2 ^ (32 * n) = top := by
    rw [Int.add_mul_ediv_left _ _ positive.ne', Int.ediv_eq_zero_of_lt (Int.natCast_nonneg _) bound,
      Int.zero_add]
  rw [half, ← Int.neg_mul, ← Int.le_ediv_iff_mul_le positive, ← Int.ediv_lt_iff_lt_mul positive,
    above, Word.FitsSigned]
  omega

variable {subtracts : Bool} {a b results : Vector Word n} {regs : RegisterFile}

/-- One more limb. What the limbs below carried, `low`, is what the operation adds to the sum or
the difference of the limbs on top. -/
theorem Worked.push {operation : Adder.Operation} {carry : Bool} {low : Int} {top other : Word}
    (below : combine subtracts (number a).toNat (number b).toNat =
      (number results).toNat + 2 ^ (32 * n) * low)
    (subtracts_eq : operation.subtracts = subtracts)
    (exact : ∀ x y : Int, operation.exact x y carry = combine subtracts x y + low)
    (flags : regs.FlagsOf (operation.result top other carry)) :
    Worked subtracts (a.push top) (b.push other)
      (results.push (operation.result top other carry).value) regs := by
  have worth (x y : Int) : combine subtracts ((number a).toNat + 2 ^ (32 * n) * x)
      ((number b).toNat + 2 ^ (32 * n) * y) =
        (number results).toNat + 2 ^ (32 * n) * operation.exact x y carry := by
    rw [combine_add_mul, below, exact]
    ring
  have unsigned := operation.exact_unsigned top other carry
  refine ⟨?_, ?_, ?_⟩
  · simp only [toNat_number_push]
    push_cast
    rw [worth, unsigned, flags.carry, subtracts_eq]
    ring
  · rw [flags.negative, msb_number_push]
  · rw [flags.overflow, operation.overflow_result, toInt_number_push, toInt_number_push, worth,
      outside_iff]

/-- What was worked out by addition is the sum of the numbers, and carry and overflow tell whether
it fits as an unsigned and as a signed number. -/
theorem Worked.sum (worked : Worked false a b results regs) :
    number results = number a + number b ∧
      regs.flag Status.carry = (number a).uaddOverflow (number b) ∧
      regs.flag Status.overflow = (number a).saddOverflow (number b) := by
  have whole : (number a).toNat + (number b).toNat =
      (number results).toNat + 2 ^ (32 * n) * (regs.flag Status.carry).toNat := by
    have whole := worked.whole
    simp only [combine, Adder.Operation.carried, Bool.false_eq_true, ↓reduceIte] at whole
    exact_mod_cast whole
  refine ⟨BitVec.eq_of_toNat_eq ?_, ?_, ?_⟩
  · rw [BitVec.toNat_add, whole, Nat.add_mul_mod_self_left, Nat.mod_eq_of_lt (number results).isLt]
  · have bound := (number results).isLt
    rw [BitVec.uaddOverflow, whole]
    cases regs.flag Status.carry with
    | false => exact (decide_eq_false (Nat.not_le.mpr bound)).symm
    | true =>
        rw [Bool.toNat_true, Nat.mul_one]
        exact (decide_eq_true (Nat.le_add_left _ _)).symm
  · rw [Bool.eq_iff_iff, worked.overflow, BitVec.saddOverflow, Bool.or_eq_true, decide_eq_true_iff,
      decide_eq_true_iff]
    rfl

/-- What was worked out by subtraction is the difference of the numbers. The carry tells that
nothing had to be borrowed, the overflow that it does not fit as a signed number. -/
theorem Worked.difference (worked : Worked true a b results regs) :
    number results = number a - number b ∧
      regs.flag Status.carry = decide ((number b).toNat ≤ (number a).toNat) ∧
      regs.flag Status.overflow = (number a).ssubOverflow (number b) := by
  have whole : 2 ^ (32 * n) + (number a).toNat = (number b).toNat + (number results).toNat +
      2 ^ (32 * n) * (regs.flag Status.carry).toNat := by
    have whole := worked.whole
    simp only [combine, Adder.Operation.carried, ↓reduceIte] at whole
    zify
    linarith
  have first := (number results).isLt
  have second := (number b).isLt
  refine ⟨BitVec.eq_of_toNat_eq ?_, ?_, ?_⟩
  · have borrowed : 2 ^ (32 * n) - (number b).toNat + (number a).toNat =
        (number results).toNat + 2 ^ (32 * n) * (regs.flag Status.carry).toNat := by
      omega
    rw [BitVec.toNat_sub, borrowed, Nat.add_mul_mod_self_left, Nat.mod_eq_of_lt first]
  · cases carry : regs.flag Status.carry with
    | false =>
        rw [carry, Bool.toNat_false] at whole
        exact (decide_eq_false (by omega)).symm
    | true =>
        rw [carry, Bool.toNat_true] at whole
        exact (decide_eq_true (by omega)).symm
  · rw [Bool.eq_iff_iff, worked.overflow, BitVec.ssubOverflow, Bool.or_eq_true, decide_eq_true_iff,
      decide_eq_true_iff]
    rfl

end Limbs

/-! ## Chains of instructions -/

namespace Arm

/-- No Thumb arithmetic instruction writes the program counter, so that a chain goes on to its next
instruction. -/
theorem destination_ne_pc {instruction : Instruction} {regs : RegisterFile} {work : Arithmetic}
    (arithmetic : instruction.arithmetic? regs = some work) : work.destination? ≠ some .pc := by
  cases instruction with
  | dataProcessing opcode setFlags rn rd operand =>
      simp only [Instruction.arithmetic?] at arithmetic
      split at arithmetic
      · rw [(compute_of_arithmetic? arithmetic false).2]
        exact (Option.some_ne_none _).symm
      · split at arithmetic
        · rename_i sets
          rw [(compute_of_arithmetic? arithmetic false).2]
          exact fun same => sets.2 (Option.some.inj same)
        · cases arithmetic
  | _ => cases arithmetic

end Arm

namespace Thumb

/-- A Thumb arithmetic instruction writes one of the low registers that its encoding names. One case
for each of its forms. -/
theorem destination_mem {instruction : Instruction} {regs : RegisterFile} {work : Arithmetic}
    (arithmetic : instruction.arithmetic? regs = some work) {rd : RegNum}
    (names : work.destination? = some rd) : rd ∈ instruction.lowRegisters := by
  cases instruction with
  | addSubtract subtract operand rs rd =>
      obtain rfl := Option.some.inj arithmetic
      obtain rfl := Option.some.inj names
      cases operand <;> simp [Instruction.lowRegisters]
  | immediate op rd value =>
      cases op with
      | add | sub =>
          obtain rfl := Option.some.inj arithmetic
          obtain rfl := Option.some.inj names
          simp [Instruction.lowRegisters]
      | cmp =>
          obtain rfl := Option.some.inj arithmetic
          cases names
      | mov => cases arithmetic
  | alu op rs rd =>
      cases op with
      | adc | sbc | neg =>
          obtain rfl := Option.some.inj arithmetic
          obtain rfl := Option.some.inj names
          simp [Instruction.lowRegisters]
      | cmp | cmn =>
          obtain rfl := Option.some.inj arithmetic
          cases names
      | _ => cases arithmetic
  | hiRegister op rs rd =>
      cases op with
      | cmp =>
          obtain rfl := Option.some.inj arithmetic
          cases names
      | add | mov => cases arithmetic
  | _ => cases arithmetic

end Thumb

namespace Machine

/-- An instruction that is arithmetic in the sense of the chain leaves the program counter to the
fetch, in both instruction sets. -/
theorem destination_ne_pc {m : Machine} {work : Arithmetic}
    (arithmetic : m.arithmetic? = some work) : work.destination? ≠ some .pc := by
  unfold arithmetic? at arithmetic
  split at arithmetic
  · intro same
    have low := Thumb.lowRegisters_decode _ _ (Thumb.destination_mem arithmetic same)
    exact RegNum.ne_of_low low (by decide) rfl
  · dsimp only at arithmetic
    split at arithmetic
    · exact Arm.destination_ne_pc arithmetic
    · cases arithmetic

/-- An arithmetic instruction leaves its result in the register it names, which no later part of the
step changes. -/
theorem get_step_of_arithmetic? {m : Machine} {work : Arithmetic} {rd : RegNum}
    (arithmetic : m.arithmetic? = some work) (names : work.destination? = some rd) :
    m.step.2.regs.get rd = (work.result (m.regs.flag Status.carry)).value := by
  have notPc : rd ≠ .pc := by
    rintro rfl
    exact destination_ne_pc arithmetic names
  rw [step_of_arithmetic? arithmetic]
  show (work.perform (m.advance m.regs.instructionSet).regs).get rd = _
  rw [Arithmetic.perform, (RegisterFile.sameButFlags_apply _ _).get, names]
  dsimp only
  rw [RegisterFile.assign_of_ne _ notPc, RegisterFile.get_set_self]
  rfl

/-- Any number of instructions, none of which changes the carry. What they do to registers, memory
and the other flags does not matter to the limbs. -/
def KeepsCarry : Machine → Machine → Prop :=
  Relation.ReflTransGen fun before after =>
    after = before.step.2 ∧ after.regs.flag Status.carry = before.regs.flag Status.carry

/-- Between two limbs of a chain the carry flag is kept, so that the next limb finds it. -/
theorem KeepsCarry.carry {before after : Machine} (keeps : KeepsCarry before after) :
    after.regs.flag Status.carry = before.regs.flag Status.carry := by
  induction keeps with
  | refl => rfl
  | tail _ last ih => exact last.2.trans ih

/-- A run that adds numbers limb by limb, or subtracts them. Each limb is the work of one
instruction, which reads a limb of either number and leaves one of the results in a register; what
is executed between two of these instructions keeps the carry. -/
inductive Chain (subtracts : Bool) :
    {n : Nat} → Vector Word n → Vector Word n → Vector Word n → Machine → Machine → Prop where
  | lowest {m : Machine} {a b : Word} {rd : RegNum}
      (arithmetic : m.arithmetic? = some ⟨Limbs.lowestOperation subtracts, a, b, some rd⟩) :
      Chain subtracts #v[a] #v[b] #v[m.step.2.regs.get rd] m m.step.2
  | next {n : Nat} {as bs results : Vector Word n} {start below m : Machine} {a b : Word}
      {rd : RegNum} (chain : Chain subtracts as bs results start below)
      (between : KeepsCarry below m)
      (arithmetic : m.arithmetic? = some ⟨Limbs.nextOperation subtracts, a, b, some rd⟩) :
      Chain subtracts (as.push a) (bs.push b) (results.push (m.step.2.regs.get rd)) start m.step.2

/-- After every limb, results and flags are those of the limbs so far. By induction on the chain,
from the lowest limb upwards. -/
theorem Chain.worked {subtracts : Bool} {n : Nat} {as bs results : Vector Word n}
    {start after : Machine} (chain : Chain subtracts as bs results start after) :
    Limbs.Worked subtracts as bs results after.regs := by
  induction chain with
  | lowest arithmetic =>
      have nothing : Limbs.combine subtracts (Limbs.number #v[]).toNat (Limbs.number #v[]).toNat =
          (Limbs.number #v[]).toNat + 2 ^ (32 * 0) * 0 := by
        cases subtracts <;> rfl
      rw [get_step_of_arithmetic? arithmetic rfl]
      exact Limbs.Worked.push nothing (Limbs.subtracts_lowestOperation subtracts)
        (Limbs.exact_lowestOperation subtracts _) (flagsOf_step arithmetic)
  | next chain between arithmetic ih =>
      have whole := ih.whole
      rw [← between.carry] at whole
      rw [get_step_of_arithmetic? arithmetic rfl]
      exact Limbs.Worked.push whole (Limbs.subtracts_nextOperation subtracts)
        (Limbs.exact_nextOperation subtracts _) (flagsOf_step arithmetic)

/-- A chain of instructions of either set, of any length, works out the sum or the difference of two
numbers of as many words, and leaves the flags that belong to all of it. -/
theorem multiword_of_chain {subtracts : Bool} {n : Nat} {as bs results : Vector Word n}
    {start after : Machine} (chain : Chain subtracts as bs results start after) :
    let a := Limbs.number as
    let b := Limbs.number bs
    let result := if subtracts then a - b else a + b
    results = Limbs.ofNumber result ∧
      after.regs.flag Status.negative = result.msb ∧
      after.regs.flag Status.carry =
        (if subtracts then decide (b.toNat ≤ a.toNat) else a.uaddOverflow b) ∧
      after.regs.flag Status.overflow =
        (if subtracts then a.ssubOverflow b else a.saddOverflow b) := by
  intro a b result
  have worked := chain.worked
  have value : Limbs.number results = result := by
    cases subtracts with
    | false => exact worked.sum.1
    | true => exact worked.difference.1
  refine ⟨?_, ?_, ?_⟩
  · rw [← value, Limbs.ofNumber_number]
  · rw [← value, worked.negative]
  · cases subtracts with
    | false => exact worked.sum.2
    | true => exact worked.difference.2

/-- `ADDS r0, r2, r4`, `MOV r6, r0` and `ADCS r1, r3, r5` in the game pak add 0xFFFFFFFF and
0x7FFFFFFF_00000001: the carry of the low words makes the signed sum overflow. -/
theorem two_words_added :
    let operands := ((RegisterFile.powerOn.set 2 0xFFFFFFFF).set 4 1).set 5 0x7FFFFFFF
    let gamePak := #[0x04, 0x00, 0x92, 0xE0, 0x00, 0x60, 0xA0, 0xE1, 0x05, 0x10, 0xB3, 0xE0]
    let m : Machine := ⟨operands.setPc 0x08000000, { Bus.powerOn with gamePak }⟩
    let after := m.step.2.step.2.step.2
    let results := #v[m.step.2.regs.get 0, after.regs.get 1]
    Chain false #v[0xFFFFFFFF, 0] #v[1, 0x7FFFFFFF] results m after ∧
      results = #v[0, 0x80000000] ∧ after.regs.flag Status.negative = true ∧
      after.regs.flag Status.carry = false ∧ after.regs.flag Status.overflow = true := by
  intro operands gamePak m after results
  have adds : m.arithmetic? = some ⟨.add, 0xFFFFFFFF, 1, some 0⟩ := by decide +kernel
  have moves : KeepsCarry m.step.2 m.step.2.step.2 := .single ⟨rfl, by decide +kernel⟩
  have addsCarry : m.step.2.step.2.arithmetic? = some ⟨.addCarry, 0, 0x7FFFFFFF, some 1⟩ := by
    decide +kernel
  -- From here on the machine does not matter, only what was found about its three steps.
  clear_value m
  have chain : Chain false #v[0xFFFFFFFF, 0] #v[1, 0x7FFFFFFF] results m after :=
    .next (.lowest adds) moves addsCarry
  obtain ⟨limbs, negative, carry, overflow⟩ := multiword_of_chain chain
  exact ⟨chain, limbs.trans (by decide +kernel), negative.trans (by decide +kernel),
    carry.trans (by decide +kernel), overflow.trans (by decide +kernel)⟩

end Machine

end Handheld
