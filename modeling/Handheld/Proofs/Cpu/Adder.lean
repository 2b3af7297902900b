import Handheld.Cpu.Flags
import Mathlib.Algebra.Group.Int.Defs
import Mathlib.Algebra.Group.Nat.Defs

/-!
# What the adder computes

The adder is asked for sums and differences, with the carry taken in or not (`Adder.Operation`). On
unsigned numbers its value and its carry together are the exact result
(`Adder.Operation.exact_unsigned`), so that a carry means a sum that is too large or a difference
without a borrow (`Adder.Operation.carry_result`). Its overflow means a signed result that does not
fit (`Adder.Operation.overflow_result`).
-/

namespace Handheld

/-- Whether a number is the signed value of a word. -/
def Word.FitsSigned (number : Int) : Prop := -2 ^ 31 ≤ number ∧ number < 2 ^ 31

instance (number : Int) : Decidable (Word.FitsSigned number) :=
  inferInstanceAs (Decidable (_ ∧ _))

/-- The complement of a word, as a signed number. -/
theorem Word.toInt_complement (value : Word) : (~~~value).toInt = -1 - value.toInt := by
  have bound := value.isLt
  simp only [BitVec.toInt_eq_toNat_cond, BitVec.toNat_not]
  split <;> split <;> omega

namespace Adder

theorem toNat_value_add (a b : Word) (carry : Bool) :
    (add a b carry).value.toNat = (a.toNat + b.toNat + carry.toNat) % 2 ^ 32 :=
  BitVec.toNat_ofNat ..

theorem carry_add (a b : Word) (carry : Bool) :
    (add a b carry).carry = true ↔ 2 ^ 32 ≤ a.toNat + b.toNat + carry.toNat :=
  decide_eq_true_iff

/-- Value and carry together are the whole sum: the carry counts what the value has no room for. -/
theorem toNat_add (a b : Word) (carry : Bool) :
    a.toNat + b.toNat + carry.toNat =
      (add a b carry).value.toNat + 2 ^ 32 * (add a b carry).carry.toNat := by
  have value := toNat_value_add a b carry
  have carries := (carry_add a b carry).symm.trans Bool.toNat_eq_one.symm
  have leaves := (add a b carry).carry.toNat_le
  have first := a.isLt
  have second := b.isLt
  have bit := carry.toNat_le
  omega

/-- Two words of one sign overflow if their sum has the other. -/
theorem overflow_add_eq (a b : Word) (carry : Bool) :
    (add a b carry).overflow = ((a.msb == b.msb) && (a.msb != (add a b carry).value.msb)) := by
  show (~~~(a ^^^ b) &&& (a ^^^ (add a b carry).value)).msb = _
  simp only [BitVec.msb_and, BitVec.msb_not, BitVec.msb_xor]
  cases a.msb <;> cases b.msb <;> rfl

theorem overflow_add (a b : Word) (carry : Bool) :
    (add a b carry).overflow = true ↔ ¬ Word.FitsSigned (a.toInt + b.toInt + carry.toNat) := by
  have value := toNat_value_add a b carry
  have bit := carry.toNat_le
  have first := a.isLt
  have second := b.isLt
  rw [overflow_add_eq, Bool.and_eq_true, beq_iff_eq, bne_iff_ne]
  simp only [BitVec.msb_eq_decide, BitVec.toInt_eq_toNat_cond, Word.FitsSigned, value, ne_eq,
    decide_eq_decide]
  split <;> split <;> omega

/-- What the adder is asked for: a sum or a difference, with or without the carry. -/
inductive Operation where
  | add
  | addCarry
  | sub
  | subBorrow
  deriving DecidableEq, Repr

namespace Operation

def subtracts : Operation → Bool
  | add | addCarry => false
  | sub | subBorrow => true

/-- What the adder makes of two words and the carry. -/
def result (operation : Operation) (a b : Word) (carry : Bool) : Result :=
  match operation with
  | add => Adder.add a b false
  | addCarry => Adder.add a b carry
  | sub => Adder.sub a b
  | subBorrow => Adder.subBorrow a b carry

/-- The operation on numbers. -/
def exact (operation : Operation) (a b : Int) (carry : Bool) : Int :=
  match operation with
  | add => a + b
  | addCarry => a + b + carry.toNat
  | sub => a - b
  | subBorrow => a - b - (1 - carry.toNat)

/-- What the carry is worth in the word above. In a difference a clear carry is a borrow. -/
def carried (subtracts carry : Bool) : Int :=
  if subtracts then carry.toNat - 1 else carry.toNat

/-- When the carry is set: a sum is too large for a word, a difference does not borrow. -/
def Carries (operation : Operation) (number : Int) : Prop :=
  if operation.subtracts then 0 ≤ number else 2 ^ 32 ≤ number

variable (operation : Operation) (a b : Word) (carry : Bool)

/-- Value and carry together are the exact unsigned result, where the carry of a difference says
that nothing was borrowed. -/
theorem exact_unsigned :
    operation.exact a.toNat b.toNat carry =
      (operation.result a b carry).value.toNat +
        2 ^ 32 * carried operation.subtracts (operation.result a b carry).carry := by
  have complement : (~~~b).toNat = 2 ^ 32 - 1 - b.toNat := BitVec.toNat_not
  have bound := b.isLt
  cases operation with
  | add =>
      have sum := toNat_add a b false
      rw [Bool.toNat_false] at sum
      simp only [exact, result, carried, subtracts, Bool.false_eq_true, ↓reduceIte]
      omega
  | addCarry =>
      have sum := toNat_add a b carry
      simp only [exact, result, carried, subtracts, Bool.false_eq_true, ↓reduceIte]
      omega
  | sub =>
      have sum := toNat_add a (~~~b) true
      rw [complement, Bool.toNat_true] at sum
      simp only [exact, result, carried, subtracts, Adder.sub, ↓reduceIte]
      omega
  | subBorrow =>
      have sum := toNat_add a (~~~b) carry
      rw [complement] at sum
      simp only [exact, result, carried, subtracts, Adder.subBorrow, ↓reduceIte]
      omega

theorem carry_result :
    (operation.result a b carry).carry = true ↔
      operation.Carries (operation.exact a.toNat b.toNat carry) := by
  have whole := operation.exact_unsigned a b carry
  have bound := (operation.result a b carry).value.isLt
  have bit := (operation.result a b carry).carry.toNat_le
  rw [← Bool.toNat_eq_one, Carries]
  rw [carried] at whole
  by_cases difference : operation.subtracts = true
  · rw [if_pos difference] at whole ⊢
    omega
  · rw [if_neg difference] at whole ⊢
    omega

theorem overflow_result :
    (operation.result a b carry).overflow = true ↔
      ¬ Word.FitsSigned (operation.exact a.toInt b.toInt carry) := by
  cases operation with
  | add =>
      have law := overflow_add a b false
      rwa [Bool.toNat_false, Int.natCast_zero, Int.add_zero] at law
  | addCarry => exact overflow_add a b carry
  | sub =>
      have exact : a.toInt + (~~~b).toInt + (true.toNat : Int) = a.toInt - b.toInt := by
        rw [Word.toInt_complement, Bool.toNat_true]
        omega
      rw [result, Adder.sub, overflow_add, exact]
      rfl
  | subBorrow =>
      have exact : a.toInt + (~~~b).toInt + (carry.toNat : Int) =
          a.toInt - b.toInt - (1 - carry.toNat) := by
        rw [Word.toInt_complement]
        omega
      rw [result, Adder.subBorrow, overflow_add, exact]
      rfl

end Operation

end Adder

end Handheld
