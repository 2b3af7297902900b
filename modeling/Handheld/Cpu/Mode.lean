import Handheld.Word

/-!
# Processor modes

The seven modes, the five-bit field that names each of them in a status register, and the bank of
private registers a mode works with. User and System share one bank, and that bank is the only one
without a saved status register.
-/

namespace Handheld

/-- Processor mode. -/
inductive Mode where
  /-- Application code, without privileges. -/
  | user
  /-- Fast interrupt handling, with private `r8` to `r14`. -/
  | fiq
  /-- Interrupt handling. -/
  | irq
  /-- Entered on reset and by software interrupts. -/
  | supervisor
  /-- Entered on memory aborts. -/
  | abort
  /-- Entered on undefined instructions. -/
  | undefined
  /-- Privileged code on the registers of User mode. -/
  | system
  deriving DecidableEq, Repr

/-- The registers `r13` and `r14` exist once per bank. -/
inductive Bank where
  | user
  | fiq
  | irq
  | supervisor
  | abort
  | undefined
  deriving DecidableEq, Repr

namespace Bank

/-- Position of a bank among the six. -/
def index : Bank → Fin 6
  | user => 0
  | fiq => 1
  | irq => 2
  | supervisor => 3
  | abort => 4
  | undefined => 5

/-- Position of a bank's saved status register; the User bank has none. -/
def savedIndex? : Bank → Option (Fin 5)
  | user => none
  | fiq => some 0
  | irq => some 1
  | supervisor => some 2
  | abort => some 3
  | undefined => some 4

end Bank

namespace Mode

/-- Every mode. -/
def all : List Mode := [user, fiq, irq, supervisor, abort, undefined, system]

/-- The mode field of a status register in this mode. -/
def bits : Mode → BitVec 5
  | user => 0x10
  | fiq => 0x11
  | irq => 0x12
  | supervisor => 0x13
  | abort => 0x17
  | undefined => 0x1B
  | system => 0x1F

/-- The mode a field names, if it names one. -/
def ofBits? (field : BitVec 5) : Option Mode :=
  match field with
  | 0x10#5 => some user
  | 0x11#5 => some fiq
  | 0x12#5 => some irq
  | 0x13#5 => some supervisor
  | 0x17#5 => some abort
  | 0x1B#5 => some undefined
  | 0x1F#5 => some system
  | _ => none

@[simp] theorem ofBits?_bits (mode : Mode) : ofBits? mode.bits = some mode := by
  cases mode <;> rfl

/-- Every mode but User may change the mode and the interrupt masks. -/
def privileged (mode : Mode) : Bool := mode != user

/-- The bank a mode keeps `r13` and `r14` in. -/
def bank : Mode → Bank
  | user | system => .user
  | fiq => .fiq
  | irq => .irq
  | supervisor => .supervisor
  | abort => .abort
  | undefined => .undefined

end Mode

end Handheld
