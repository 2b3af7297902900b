import Handheld.Cpu.Flags
import Handheld.Cpu.Machine
import Handheld.Proofs.Cpu.StatusBits

/-!
# Reading the register file after a change

What each of the register operations leaves alone: a write of a register keeps the status, a write
of status bits keeps the registers, and both keep the slots of the other modes and the saved status
registers.
-/

namespace Handheld

/-- The sixteen registers by the way they are banked. -/
theorem RegNum.banking_cases (r : RegNum) :
    r.val < 8 ∨ (8 ≤ r.val ∧ r.val ≤ 12) ∨ r = .sp ∨ r = .lr ∨ r = .pc := by
  revert r
  decide

/-- The registers of which there is more than one. -/
theorem RegNum.banked_cases {r : RegNum} (banked : ¬ (r.val < 8 ∨ r = .pc)) :
    (8 ≤ r.val ∧ r.val ≤ 12) ∨ r = .sp ∨ r = .lr := by
  rcases r.banking_cases with low | high | rfl | rfl | rfl
  · exact absurd (.inl low) banked
  · exact .inl high
  · exact .inr (.inl rfl)
  · exact .inr (.inr rfl)
  · exact absurd (.inr rfl) banked

namespace RegisterFile

variable (regs : RegisterFile)

/-! ## Registers -/

/-- A register reads as what was written to it last. -/
theorem get_set (r i : RegNum) (value : Word) :
    (regs.set r value).get i = if i = r then value else regs.get i := by
  by_cases same : i = r
  · subst same
    simp only [get, set, Fin.getElem_fin, Vector.getElem_set_self, ↓reduceIte]
  · have different : r.val ≠ i.val := fun equal => same (Fin.ext equal.symm)
    simp only [get, set, Fin.getElem_fin, same, ↓reduceIte, Vector.getElem_set_ne _ _ different]

@[simp] theorem get_set_self (r : RegNum) (value : Word) : (regs.set r value).get r = value := by
  rw [get_set, if_pos rfl]

/-- Writing a register changes no other one. -/
theorem get_set_of_ne {r i : RegNum} (different : i ≠ r) (value : Word) :
    (regs.set r value).get i = regs.get i := by
  rw [get_set, if_neg different]

/-- The last write of a register counts. -/
theorem set_set (r : RegNum) (first second : Word) :
    (regs.set r first).set r second = regs.set r second := by
  simp only [set, Vector.set_set]

/-- Writes of different registers commute. -/
theorem set_comm {r i : RegNum} (different : r ≠ i) (first second : Word) :
    (regs.set r first).set i second = (regs.set i second).set r first := by
  have apart : r.val ≠ i.val := fun same => different (Fin.ext same)
  simp only [set, Vector.set_comm _ _ apart]

@[simp] theorem cpsr_set (r : RegNum) (value : Word) : (regs.set r value).cpsr = regs.cpsr := rfl

@[simp] theorem mode_set (r : RegNum) (value : Word) : (regs.set r value).mode = regs.mode := rfl

@[simp] theorem flag_set (r : RegNum) (value mask : Word) :
    (regs.set r value).flag mask = regs.flag mask := rfl

@[simp] theorem thumb_set (r : RegNum) (value : Word) : (regs.set r value).thumb = regs.thumb := rfl

/-- No general register, not even `r15`, takes part in selecting the instruction set. -/
@[simp] theorem instructionSet_set (r : RegNum) (value : Word) :
    (regs.set r value).instructionSet = regs.instructionSet := rfl

@[simp] theorem savedStatus?_set (r : RegNum) (value : Word) (mode : Mode) :
    (regs.set r value).savedStatus? mode = regs.savedStatus? mode := rfl

@[simp] theorem pc_setPc (address : Word) : (regs.setPc address).pc = address :=
  regs.get_set_self .pc address

/-- Only the last of two branches counts. -/
theorem setPc_set_setPc {r : RegNum} (notPc : r ≠ .pc) (first value last : Word) :
    ((regs.setPc first).set r value).setPc last = (regs.set r value).setPc last := by
  rw [setPc, setPc, setPc, regs.set_comm (Ne.symm notPc), set_set]

/-- Writing a register other than `r15` does not branch. -/
theorem pc_set_of_ne {r : RegNum} (different : r ≠ .pc) (value : Word) :
    (regs.set r value).pc = regs.pc :=
  regs.get_set_of_ne (Ne.symm different) value

/-! ## Registers of an instruction -/

/-- Only `r15` reads differently as an operand. -/
theorem operand_of_ne {r : RegNum} (notPc : r ≠ .pc) (set : InstructionSet) :
    regs.operand set r = regs.get r := if_neg notPc

/-- A register other than `r15` reads the same early and late in an instruction. -/
theorem lateOperand_of_ne {r : RegNum} (notPc : r ≠ .pc) (set : InstructionSet) :
    regs.lateOperand set r = regs.get r := by
  rw [lateOperand, if_neg notPc, regs.operand_of_ne notPc]

/-- Assigning a register other than `r15` is writing it. -/
theorem assign_of_ne {r : RegNum} (notPc : r ≠ .pc) (value : Word) :
    regs.assign r value = regs.set r value := if_neg notPc

/-- A base register other than `r15` takes the final address. -/
theorem writeBack_of_ne {r : RegNum} (notPc : r ≠ .pc) (address : Word) :
    regs.writeBack r address = regs.set r address := if_neg notPc

/-! ## Status bits -/

@[simp] theorem get_setFlag (mask : Word) (value : Bool) (r : RegNum) :
    (regs.setFlag mask value).get r = regs.get r := rfl

@[simp] theorem pc_setFlag (mask : Word) (value : Bool) :
    (regs.setFlag mask value).pc = regs.pc := rfl

@[simp] theorem savedStatus?_setFlag (mask : Word) (value : Bool) (mode : Mode) :
    (regs.setFlag mask value).savedStatus? mode = regs.savedStatus? mode := rfl

/-- A change of status bits is not seen under a disjoint mask. -/
theorem cpsr_setFlag_and {mask read : Word} (disjoint : read &&& mask = 0) (value : Bool) :
    (regs.setFlag mask value).cpsr &&& read = regs.cpsr &&& read := by
  cases value with
  | false => exact Status.clear_and_of_disjoint disjoint regs.cpsr
  | true => exact Status.or_and_of_disjoint disjoint regs.cpsr

/-- Setting some status bits changes the reading of no other ones. -/
theorem flag_setFlag_of_disjoint {mask read : Word} (disjoint : read &&& mask = 0)
    (value : Bool) : (regs.setFlag mask value).flag read = regs.flag read := by
  rw [flag, flag, cpsr_setFlag_and regs disjoint]

/-- Changes of disjoint status bits commute, so that the order in which an operation sets its flags
does not matter. -/
theorem setFlag_comm {mask other : Word} (disjoint : mask &&& other = 0) (first second : Bool) :
    (regs.setFlag mask first).setFlag other second =
      (regs.setFlag other second).setFlag mask first := by
  have apart (i : Nat) (bound : i < 32) : ¬(mask[i] = true ∧ other[i] = true) := by
    intro both
    have bits := congrArg (·[i]) disjoint
    simp only [BitVec.getElem_and, both.1, both.2, Bool.and_self, BitVec.ofNat_eq_ofNat,
      BitVec.getElem_zero, Bool.true_eq_false] at bits
  have bitwise (i : Nat) (bound : i < 32) :
      ((regs.setFlag mask first).setFlag other second).cpsr[i] =
        ((regs.setFlag other second).setFlag mask first).cpsr[i] := by
    have apart := apart i bound
    cases first <;> cases second <;> cases inMask : mask[i] <;> cases inOther : other[i] <;>
      simp_all [setFlag]
  exact congrArg (fun status => { regs with cpsr := status }) (BitVec.eq_of_getElem_eq bitwise)

/-- Writing the carry back as it is changes nothing. Shifts by zero do so, where the hardware leaves
the carry alone. -/
@[simp] theorem setFlag_carry_self : regs.setFlag Status.carry (regs.flag Status.carry) = regs := by
  have single : Status.carry = BitVec.twoPow 32 29 := by decide
  have same : (regs.setFlag Status.carry (regs.flag Status.carry)).cpsr = regs.cpsr := by
    ext i bound
    cases bit : regs.cpsr[29] with
    | false =>
        have clear : regs.flag Status.carry = false := by
          rw [flag, single, BitVec.and_twoPow, BitVec.getLsbD_eq_getElem (by decide), bit]
          rfl
        rw [clear]
        by_cases carry : i = 29
        · simp [setFlag, single, carry, bit]
        · simp [setFlag, single, BitVec.getElem_twoPow, carry]
    | true =>
        have raised : regs.flag Status.carry = true := by
          rw [flag, single, BitVec.and_twoPow, BitVec.getLsbD_eq_getElem (by decide), bit]
          decide
        rw [raised]
        by_cases carry : i = 29
        · simp [setFlag, single, carry, bit]
        · simp [setFlag, single, BitVec.getElem_twoPow, carry]
  exact congrArg (fun status => { regs with cpsr := status }) same

/-- The mode depends on the mode field of the status alone. -/
theorem mode_congr {a b : RegisterFile}
    (same : a.cpsr &&& Status.modeMask = b.cpsr &&& Status.modeMask) : a.mode = b.mode := by
  rw [mode, mode, Status.modeField_congr same]

/-- Registers with one status are in one mode. -/
theorem mode_of_cpsr_eq {a b : RegisterFile} (same : a.cpsr = b.cpsr) : a.mode = b.mode :=
  mode_congr (congrArg (· &&& _) same)

/-- Status bits outside the mode field do not change the mode. -/
theorem mode_setFlag {mask : Word} (disjoint : Status.modeMask &&& mask = 0) (value : Bool) :
    (regs.setFlag mask value).mode = regs.mode :=
  mode_congr (cpsr_setFlag_and regs disjoint value)

/-- A status bit reads as it was written. A mask of several bits reads as set if any of them is, and
they are set together. -/
theorem flag_setFlag_self {mask : Word} (nonzero : mask ≠ 0) (value : Bool) :
    (regs.setFlag mask value).flag mask = value := by
  cases value with
  | false =>
      have cleared : regs.cpsr &&& ~~~mask &&& mask = 0 := by
        rw [BitVec.and_assoc, BitVec.not_and_self]
        exact BitVec.and_zero
      simp only [flag, setFlag, Bool.false_eq_true, ↓reduceIte, cleared, bne_self_eq_false]
  | true =>
      have raised : (regs.cpsr ||| mask) &&& mask = mask := by
        ext i bound
        simp only [BitVec.getElem_and, BitVec.getElem_or]
        cases mask[i] <;> simp only [Bool.or_true, Bool.and_true, Bool.and_false]
      simp only [flag, setFlag, ↓reduceIte, raised]
      exact bne_iff_ne.mpr nonzero

/-- The instruction set that was entered is the one that is selected. -/
@[simp] theorem thumb_setThumb (value : Bool) : (regs.setThumb value).thumb = value :=
  flag_setFlag_self regs (by decide) value

/-- Changing the instruction set does not change the mode. -/
@[simp] theorem mode_setThumb (value : Bool) : (regs.setThumb value).mode = regs.mode :=
  mode_setFlag regs (by decide) value

variable {regs}

/-- The Thumb bit selects the short instructions. -/
theorem instructionSet_of_thumb (thumb : regs.thumb = true) : regs.instructionSet = .thumb :=
  if_pos thumb

/-- Without the Thumb bit the long instructions are selected. -/
theorem instructionSet_of_arm (arm : regs.thumb = false) : regs.instructionSet = .arm :=
  if_neg (Bool.eq_false_iff.mp arm)

end RegisterFile

end Handheld
