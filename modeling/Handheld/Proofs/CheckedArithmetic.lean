import Handheld.Word
import Mathlib.Algebra.Group.Int.Defs
import Mathlib.Data.Nat.PSub

/-!
# Arithmetic that is refused out of range

Differences of numbers without sign (`Nat.psub`), counts of shifts, and results that have to fit
into a byte or into 64 bits. What is computed with them has a value only if nothing on the way is
out of range.
-/

namespace Handheld

/-- A number of places to shift a word by, of which there are less than the word has bits. -/
def shiftCount? (count : Nat) : Option Nat := if count ≤ 31 then some count else none

/-- A number that fits into a byte. -/
def byte? (value : Nat) : Option Byte := if value < 2 ^ 8 then some (BitVec.ofNat 8 value) else none

/-- A number that fits into 64 bits without a sign. -/
def unsigned64? (value : Nat) : Option Nat := if value < 2 ^ 64 then some value else none

/-- A number that fits into 64 bits with a sign. -/
def signed64? (value : Int) : Option Int :=
  if -2 ^ 63 ≤ value ∧ value < 2 ^ 63 then some value else none

theorem shiftCount?_of_le {count : Nat} (inside : count ≤ 31) :
    shiftCount? count = some count := if_pos inside

theorem byte?_of_lt {value : Nat} (fits : value < 2 ^ 8) :
    byte? value = some (BitVec.ofNat 8 value) := if_pos fits

theorem unsigned64?_of_lt {value : Nat} (fits : value < 2 ^ 64) :
    unsigned64? value = some value := if_pos fits

theorem signed64?_of_natAbs_lt {value : Int} (fits : value.natAbs < 2 ^ 63) :
    signed64? value = some value := if_pos (by omega)

/-- How large a product is follows from how large its factors are. -/
theorem natAbs_mul_le {first second : Int} {size factor : Nat} (left : first.natAbs ≤ size)
    (right : second.natAbs ≤ factor) : (first * second).natAbs ≤ size * factor := by
  rw [Int.natAbs_mul]
  exact Nat.mul_le_mul left right

/-- How large a number of so many bits with a sign is. -/
theorem natAbs_toInt_le {width : Nat} (value : BitVec width) :
    value.toInt.natAbs ≤ 2 ^ (width - 1) := by
  have low := value.le_toInt
  have high := value.toInt_lt
  have size : ((2 ^ (width - 1) : Nat) : Int) = 2 ^ (width - 1) := Int.natCast_pow 2 _
  omega

end Handheld
