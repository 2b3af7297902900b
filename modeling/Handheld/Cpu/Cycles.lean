import Handheld.Word

/-!
# Cycle costs

Instructions are charged by class. The charge is what moves the video clock on.
-/

namespace Handheld

/-- What kind of work an instruction does. -/
inductive InstructionClass where
  /-- Arithmetic or logic on registers. -/
  | dataProcessing
  /-- Access to a status register. -/
  | psrTransfer
  /-- Product of 32 bits. -/
  | multiply
  /-- Product of 64 bits. -/
  | multiplyLong
  /-- Exchange of a register with memory. -/
  | swap
  /-- Branch that selects the instruction set. -/
  | branchExchange
  /-- Load of one register. -/
  | load
  /-- Store of one register. -/
  | store
  /-- Load of several registers. -/
  | loadMultiple
  /-- Store of several registers. -/
  | storeMultiple
  /-- Branch, with or without link. -/
  | branch
  /-- Call of the supervisor. -/
  | softwareInterrupt
  /-- Coprocessor instruction; there is no coprocessor. -/
  | coprocessor
  /-- Unallocated encoding. -/
  | undefined
  deriving DecidableEq, Repr

namespace InstructionClass

/-- Every class with its cost. -/
def costTable : List (InstructionClass × Nat) :=
  [(dataProcessing, 1), (psrTransfer, 1), (multiply, 2), (multiplyLong, 3), (swap, 4),
    (branchExchange, 3), (load, 3), (store, 2), (loadMultiple, 3), (storeMultiple, 2),
    (branch, 3), (softwareInterrupt, 3), (coprocessor, 3), (undefined, 3)]

/-- The cost in the table. -/
def cost? (kind : InstructionClass) : Option Nat := costTable.lookup kind

/-- Cycles an instruction of a class takes. -/
def cycles (kind : InstructionClass) : Nat := kind.cost?.getD 1

end InstructionClass

/-- Cycles it takes to enter an interrupt. -/
def interruptEntryCycles : Nat := 3

/-- Cycles that pass in one tick while the processor is halted. -/
def haltedCycles : Nat := 1

end Handheld
