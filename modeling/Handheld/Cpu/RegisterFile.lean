import Handheld.Cpu.Status
import Handheld.Cpu.InstructionSet

/-!
# The banked register file

The file holds the sixteen registers the current mode sees and, for every banked register, a slot
that keeps its value while another mode is current. A change of mode writes the visible copies of
the banked registers back to the slots of the old mode and fetches those of the new one, so a slot
is up to date exactly while its mode is not current. `banked` reads a register as any mode sees it
and hides that difference.

`r15` holds the address of the next instruction to fetch; reads by an instruction add the distance
the pipeline is ahead (`operand`).
-/

namespace Handheld

/-- The stack pointer and the link register of one bank. -/
structure StackLink where
  sp : Word
  lr : Word
  deriving DecidableEq, Repr

/-- The general registers and status registers of the processor. -/
structure RegisterFile where
  /-- The registers of the current mode. -/
  visible : Vector Word 16
  /-- Slots of `r8` to `r12` for every mode but FIQ. -/
  sharedHigh : Vector Word 5
  /-- Slots of the private `r8` to `r12` of FIQ. -/
  fiqHigh : Vector Word 5
  /-- Slots of `r13` and `r14`, one pair a bank. -/
  stackLinks : Vector StackLink 6
  /-- Saved status registers of the banks that have one. -/
  saved : Vector Word 5
  /-- The current status. -/
  cpsr : Word
  deriving DecidableEq, Repr

namespace RegisterFile

/-- The registers at power-on. -/
def powerOn : RegisterFile where
  visible := Vector.replicate 16 0
  sharedHigh := Vector.replicate 5 0
  fiqHigh := Vector.replicate 5 0
  stackLinks := Vector.replicate 6 ⟨0, 0⟩
  saved := Vector.replicate 5 0
  cpsr := Status.powerOn

/-! ## Visible registers and status bits -/

/-- The value of a visible register. -/
def get (regs : RegisterFile) (r : RegNum) : Word := regs.visible[r]

/-- Replaces the value of a visible register. -/
def set (regs : RegisterFile) (r : RegNum) (value : Word) : RegisterFile :=
  { regs with visible := regs.visible.set r value }

/-- The address of the next instruction. -/
def pc (regs : RegisterFile) : Word := regs.get .pc

/-- Replaces the address of the next instruction. -/
def setPc (regs : RegisterFile) (address : Word) : RegisterFile := regs.set .pc address

/-- Whether any status bit of `mask` is set. -/
def flag (regs : RegisterFile) (mask : Word) : Bool := regs.cpsr &&& mask != 0

/-- Sets or clears all status bits of `mask`, and nothing else. -/
def setFlag (regs : RegisterFile) (mask : Word) (value : Bool) : RegisterFile :=
  { regs with cpsr := if value then regs.cpsr ||| mask else regs.cpsr &&& ~~~mask }

/-- Whether the processor is in Thumb state. -/
def thumb (regs : RegisterFile) : Bool := regs.flag Status.thumb

/-- Enters Thumb or ARM state. -/
def setThumb (regs : RegisterFile) (value : Bool) : RegisterFile := regs.setFlag Status.thumb value

/-- The instruction set the status selects. -/
def instructionSet (regs : RegisterFile) : InstructionSet := if regs.thumb then .thumb else .arm

/-- Continues at `target`, aligned for the selected instruction set. -/
def branchTo (regs : RegisterFile) (target : Word) : RegisterFile :=
  regs.setPc (regs.instructionSet.align target)

/-- Writes a register as an instruction does: a write to `r15` is a branch. -/
def assign (regs : RegisterFile) (r : RegNum) (value : Word) : RegisterFile :=
  if r = .pc then regs.branchTo value else regs.set r value

/-- Reads a register as an instruction of `set` does: `r15`, which has moved on to the next
instruction, reads one further width ahead. -/
def operand (regs : RegisterFile) (set : InstructionSet) (r : RegNum) : Word :=
  if r = .pc then regs.pc + set.width else regs.get r

/-- Reads a register late in an instruction, when `r15` is one more word ahead. -/
def lateOperand (regs : RegisterFile) (set : InstructionSet) (r : RegNum) : Word :=
  if r = .pc then regs.operand set r + 4 else regs.operand set r

/-! ## Modes -/

/-- The current mode. A status without a valid mode field counts as System. -/
def mode (regs : RegisterFile) : Mode :=
  (Mode.ofBits? (Status.modeField regs.cpsr)).getD .system

/-- Whether `r8` to `r12` of two modes are the same registers. -/
def sharesHigh (a b : Mode) : Bool := (a == .fiq) == (b == .fiq)

/-- The slots that `r8` to `r12` of a mode are kept in. -/
def highSlots (regs : RegisterFile) (mode : Mode) : Vector Word 5 :=
  if mode = .fiq then regs.fiqHigh else regs.sharedHigh

/-- The slots that `r13` and `r14` of a bank are kept in. -/
def stackLink (regs : RegisterFile) (bank : Bank) : StackLink := regs.stackLinks[bank.index]

/-- The value kept in the slot of a mode's register. A register without a slot has its visible
value. -/
def slot (regs : RegisterFile) (mode : Mode) (r : RegNum) : Word :=
  if h : 8 ≤ r.val ∧ r.val ≤ 12 then (regs.highSlots mode)[r.val - 8]
  else if r = .sp then (regs.stackLink mode.bank).sp
  else if r = .lr then (regs.stackLink mode.bank).lr
  else regs.get r

/-- Whether register `r` is one and the same in two modes. -/
def sharedBy (a b : Mode) (r : RegNum) : Bool :=
  if 8 ≤ r.val ∧ r.val ≤ 12 then sharesHigh a b
  else if r = .sp ∨ r = .lr then a.bank == b.bank
  else true

/-- Register `r` as `mode` sees it, whatever the current mode is. -/
def banked (regs : RegisterFile) (mode : Mode) (r : RegNum) : Word :=
  if sharedBy regs.mode mode r then regs.get r else regs.slot mode r

/-- Writes the visible banked registers back to the slots of the current mode. -/
def bankOut (regs : RegisterFile) : RegisterFile :=
  let current := regs.mode
  let high := Vector.ofFn fun i : Fin 5 => regs.visible[8 + i.val]
  { regs with
    fiqHigh := if current = .fiq then high else regs.fiqHigh
    sharedHigh := if current = .fiq then regs.sharedHigh else high
    stackLinks := regs.stackLinks.set current.bank.index ⟨regs.get .sp, regs.get .lr⟩ }

/-- Makes the registers in the slots of `mode` the visible ones. -/
def bankIn (regs : RegisterFile) (mode : Mode) : RegisterFile :=
  { regs with visible := Vector.ofFn fun r => regs.slot mode r }

/-- Changes to `target`, which leaves the other status bits alone. -/
def switchMode (regs : RegisterFile) (target : Mode) : RegisterFile :=
  let moved := if regs.mode.bank = target.bank then regs else regs.bankOut.bankIn target
  { moved with cpsr := Status.withMode moved.cpsr target }

/-- Replaces the status, changing mode where its mode field asks for one. A status without a valid
mode field keeps the current mode. -/
def setCpsr (regs : RegisterFile) (value : Word) : RegisterFile :=
  let target := (Mode.ofBits? (Status.modeField value)).getD regs.mode
  { regs.switchMode target with cpsr := Status.withMode value target }

/-! ## Saved status registers -/

/-- The saved status of a mode; User and System have none. -/
def savedStatus? (regs : RegisterFile) (mode : Mode) : Option Word :=
  mode.bank.savedIndex?.map fun i => regs.saved[i]

/-- The saved status of the current mode. -/
def spsr? (regs : RegisterFile) : Option Word := regs.savedStatus? regs.mode

/-- Replaces the saved status of the current mode, if it has one. -/
def setSpsr (regs : RegisterFile) (value : Word) : RegisterFile :=
  match regs.mode.bank.savedIndex? with
  | some i => { regs with saved := regs.saved.set i value }
  | none => regs

/-- Makes the saved status current, if there is one. -/
def restoreStatus (regs : RegisterFile) : RegisterFile :=
  match regs.spsr? with
  | some status => regs.setCpsr status
  | none => regs

/-! ## Registers of User mode -/

/-- Register `r` of User mode. -/
def userRegister (regs : RegisterFile) (r : RegNum) : Word := regs.banked .user r

/-- Replaces the value kept in the slot of a mode's register, if it has a slot. -/
def setSlot (regs : RegisterFile) (mode : Mode) (r : RegNum) (value : Word) : RegisterFile :=
  if h : 8 ≤ r.val ∧ r.val ≤ 12 then
    if mode = .fiq then { regs with fiqHigh := regs.fiqHigh.set (r.val - 8) value }
    else { regs with sharedHigh := regs.sharedHigh.set (r.val - 8) value }
  else
    let pair := regs.stackLink mode.bank
    if r = .sp then
      { regs with stackLinks := regs.stackLinks.set mode.bank.index { pair with sp := value } }
    else if r = .lr then
      { regs with stackLinks := regs.stackLinks.set mode.bank.index { pair with lr := value } }
    else regs

/-- Writes register `r` of User mode. -/
def setUserRegister (regs : RegisterFile) (r : RegNum) (value : Word) : RegisterFile :=
  if sharedBy regs.mode .user r then regs.set r value else regs.setSlot .user r value

/-- Register number `n` as `mode` sees it; there is none above `r15`. -/
def banked? (regs : RegisterFile) (mode : Mode) (n : Nat) : Option Word :=
  if h : n < 16 then some (regs.banked mode ⟨n, h⟩) else none

end RegisterFile

end Handheld
