import Handheld.Cpu.RegisterFile

/-!
# The adder and the condition flags

Addition with carry is the one arithmetic operation: a subtraction `a - b` adds the complement of
`b` and a carry of one, so that carry means "no borrow". `FlagsUpdate` says which condition flags
an instruction changes and from what.
-/

namespace Handheld

namespace Adder

/-- A sum, its carry and its signed overflow. -/
structure Result where
  value : Word
  carry : Bool
  overflow : Bool
  deriving DecidableEq, Repr

/-- `a + b + carry`. -/
def add (a b : Word) (carry : Bool) : Result :=
  let total := a.toNat + b.toNat + carry.toNat
  let value := BitVec.ofNat 32 total
  { value
    carry := 0xFFFFFFFF < total
    overflow := (~~~(a ^^^ b) &&& (a ^^^ value)).msb }

/-- `a - b`. -/
def sub (a b : Word) : Result := add a (~~~b) true

/-- `a - b`, less one when the carry is clear. -/
def subBorrow (a b : Word) (carry : Bool) : Result := add a (~~~b) carry

end Adder

/-- The condition flags an instruction changes. -/
inductive FlagsUpdate where
  /-- None. -/
  | none
  /-- N and Z, from a result. -/
  | result (value : Word)
  /-- N and Z from a result, C from the shifter. -/
  | logical (value : Word) (carry : Bool)
  /-- N, Z, C and V from the adder. -/
  | arithmetic (sum : Adder.Result)
  /-- N and Z, from a result of 64 bits. -/
  | long (value : BitVec 64)
  deriving DecidableEq, Repr

namespace FlagsUpdate

/-- Sets N and Z from a result. -/
def setSignZero (regs : RegisterFile) (value : Word) : RegisterFile :=
  (regs.setFlag Status.negative value.msb).setFlag Status.zero (value == 0)

/-- Changes the flags of the current status. -/
def apply : FlagsUpdate → RegisterFile → RegisterFile
  | none, regs => regs
  | result value, regs => setSignZero regs value
  | logical value carry, regs => (setSignZero regs value).setFlag Status.carry carry
  | arithmetic sum, regs =>
    ((setSignZero regs sum.value).setFlag Status.carry sum.carry).setFlag Status.overflow
      sum.overflow
  | long value, regs =>
    (regs.setFlag Status.negative value.msb).setFlag Status.zero (value == 0)

end FlagsUpdate

end Handheld
