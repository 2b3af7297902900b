import Handheld.Arm.Execute
import Handheld.Proofs.Cpu.Frame

/-!
# Block transfers

What a transfer of several registers does when it writes its base back and neither the base nor the
transferred registers include `r15`: where the registers lie (`Arm.block_incrementAfter`,
`Arm.block_decrementBefore`), what is stored (`Arm.blockTransfer_store`), and what is loaded
(`Arm.blockTransfer_load`, `Arm.get_loadBlock`).
-/

namespace Handheld

theorem snd_transferSlots (start : Word) (listed : List RegNum) :
    (transferSlots start listed).map (·.2) = listed := by
  induction listed generalizing start with
  | nil => rfl
  | cons r rest ih => exact congrArg (r :: ·) (ih (start + 4))

/-- The place of each register of a block transfer follows from its position in the list: four bytes
for each register before it. -/
theorem getElem?_transferSlots (start : Word) (listed : List RegNum) (k : Nat) :
    (transferSlots start listed)[k]? =
      listed[k]?.map fun r => (start + BitVec.ofNat 32 (4 * k), r) := by
  induction listed generalizing start k with
  | nil => rfl
  | cons r rest ih =>
      cases k with
      | zero =>
          rw [transferSlots, List.getElem?_cons_zero, List.getElem?_cons_zero, Option.map_some]
          exact congrArg (fun address => some (address, r)) (BitVec.add_zero start).symm
      | succ k =>
          rw [transferSlots, List.getElem?_cons_succ, List.getElem?_cons_succ, ih]
          have further : start + 4 + BitVec.ofNat 32 (4 * k) =
              start + BitVec.ofNat 32 (4 * (k + 1)) := by
            rw [BitVec.add_assoc]
            refine congrArg (start + ·) ?_
            apply BitVec.eq_of_toNat_eq
            simp only [BitVec.ofNat_eq_ofNat, BitVec.toNat_add, BitVec.toNat_ofNat]
            omega
          rw [further]

theorem length_transferSlots (start : Word) (listed : List RegNum) :
    (transferSlots start listed).length = listed.length := by
  have registers := congrArg List.length (snd_transferSlots start listed)
  rwa [List.length_map] at registers

/-- The words of a block follow each other, so that the address of one gives those of all. -/
theorem fst_transferSlots (start : Word) (listed : List RegNum) {k : Nat}
    (bound : k < (transferSlots start listed).length) :
    (transferSlots start listed)[k].1 = start + BitVec.ofNat 32 (4 * k) := by
  have place := getElem?_transferSlots start listed k
  rw [List.getElem?_eq_getElem bound,
    List.getElem?_eq_getElem (length_transferSlots start listed ▸ bound)] at place
  exact congrArg Prod.fst (Option.some.inj place)

namespace Arm

/-- Addresses rise from the base on. -/
def Indexing.incrementAfter : Indexing := ⟨false, true, true⟩

/-- Addresses rise up to the base. -/
def Indexing.decrementBefore : Indexing := ⟨true, false, true⟩

theorem block_incrementAfter {base : Word} {registers : Half} (nonempty : registers ≠ 0) :
    Indexing.incrementAfter.block base registers =
      ⟨transferSlots base (listedRegisters registers),
        base + BitVec.ofNat 32 (4 * (listedRegisters registers).length)⟩ := by
  simp only [Indexing.block, Indexing.incrementAfter, nonempty, ↓reduceIte, Bool.false_eq_true]

theorem block_decrementBefore {base : Word} {registers : Half} (nonempty : registers ≠ 0) :
    Indexing.decrementBefore.block base registers =
      ⟨transferSlots (base - BitVec.ofNat 32 (4 * (listedRegisters registers).length))
          (listedRegisters registers),
        base - BitVec.ofNat 32 (4 * (listedRegisters registers).length)⟩ := by
  simp only [Indexing.block, Indexing.decrementBefore, nonempty, ↓reduceIte, Bool.false_eq_true,
    Bool.true_eq_false]

variable {rn : RegNum} {indexing : Indexing} {registers : Half} {block : Block} {m : Machine}

/-- A load moves the base before it loads, so that a base in the list keeps the word that is loaded
into it. -/
theorem blockTransfer_load (base : rn ≠ .pc) (writeBack : indexing.writeBack = true)
    (laidOut : indexing.block (m.regs.get rn) registers = block) :
    blockTransfer true false indexing rn registers m =
      { m with
        regs := loadBlock false false block.slots m.bus (m.regs.set rn block.finalBase) } := by
  have start : read m.regs rn = m.regs.get rn := m.regs.operand_of_ne base .arm
  unfold blockTransfer
  simp only [start, laidOut, writeBack, Bool.false_and, ↓reduceIte,
    RegisterFile.writeBack_of_ne _ base]

/-- A store writes the registers as they are, but for a base that is not the first of them. That one
is stored as it will be after the transfer. -/
theorem blockTransfer_store (base : rn ≠ .pc) (writeBack : indexing.writeBack = true)
    (laidOut : indexing.block (m.regs.get rn) registers = block)
    (notPc : ∀ r ∈ block.slots.map (·.2), r ≠ .pc) :
    blockTransfer false false indexing rn registers m =
      (m.storeWords (block.slots.map fun slot =>
        (slot.1, if slot.2 = rn ∧ slot.2 ≠ (block.slots.map (·.2)).headD .pc then
          block.finalBase else m.regs.get slot.2))).mapRegs (·.set rn block.finalBase) := by
  have start : read m.regs rn = m.regs.get rn := m.regs.operand_of_ne base .arm
  have values : ∀ slot ∈ block.slots,
      (slot.1, blockStoreValue false (some block.finalBase) rn
        ((block.slots.map (·.2)).headD .pc) m.regs slot.2) =
      (slot.1, if slot.2 = rn ∧ slot.2 ≠ (block.slots.map (·.2)).headD .pc then
        block.finalBase else m.regs.get slot.2) := by
    intro slot member
    simp only [blockStoreValue, notPc slot.2 (List.mem_map_of_mem member), Bool.false_eq_true,
      ↓reduceIte]
  unfold blockTransfer
  simp only [start, laidOut, writeBack, Bool.false_eq_true, ↓reduceIte,
    RegisterFile.writeBack_of_ne _ base]
  rw [List.map_congr_left values]

/-- A store that does not list its base writes the registers as they are and then moves the base. -/
theorem blockTransfer_store_of_notMem (base : rn ≠ .pc) (writeBack : indexing.writeBack = true)
    (laidOut : indexing.block (m.regs.get rn) registers = block)
    (notPc : ∀ r ∈ block.slots.map (·.2), r ≠ .pc) (notBase : rn ∉ block.slots.map (·.2)) :
    blockTransfer false false indexing rn registers m =
      (m.storeWords (block.slots.map fun slot => (slot.1, m.regs.get slot.2))).mapRegs
        (·.set rn block.finalBase) := by
  have values : ∀ slot ∈ block.slots,
      (slot.1, if slot.2 = rn ∧ slot.2 ≠ (block.slots.map (·.2)).headD .pc then
        block.finalBase else m.regs.get slot.2) = (slot.1, m.regs.get slot.2) := by
    intro slot member
    have different : slot.2 ≠ rn := fun same => notBase (same ▸ List.mem_map_of_mem member)
    simp only [different, false_and, ↓reduceIte]
  rw [blockTransfer_store base writeBack laidOut notPc, List.map_congr_left values]

/-! ## Loaded registers -/

variable {slots : List (Word × RegNum)}

theorem loadBlock_cons (address : Word) {r : RegNum} (notPc : r ≠ .pc)
    (rest : List (Word × RegNum)) (bus : Bus) (regs : RegisterFile) :
    loadBlock false false ((address, r) :: rest) bus regs =
      loadBlock false false rest bus (regs.set r (bus.read32 address)) := by
  simp only [loadBlock, List.foldl_cons, notPc, Bool.false_eq_true, ↓reduceIte]

/-- A load changes at most the registers it lists, in the bank of the current mode. By induction on
the slots. -/
theorem changedOnly_loadBlock (notPc : ∀ r ∈ slots.map (·.2), r ≠ .pc) (bus : Bus)
    (regs : RegisterFile) :
    regs.ChangedOnly (slots.map (·.2)) (loadBlock false false slots bus regs) := by
  induction slots generalizing regs with
  | nil => exact .refl regs
  | cons slot rest ih =>
      obtain ⟨address, r⟩ := slot
      rw [List.map_cons, List.forall_mem_cons] at notPc
      rw [loadBlock_cons address notPc.1]
      exact (RegisterFile.ChangedOnly.set regs r (bus.read32 address)).trans (ih notPc.2 _)

/-- A register listed once holds the word at its address after a load, as no later slot is for the
same register. -/
theorem get_loadBlock (notPc : ∀ r ∈ slots.map (·.2), r ≠ .pc) (once : (slots.map (·.2)).Nodup)
    (bus : Bus) (regs : RegisterFile) {address : Word} {r : RegNum}
    (member : (address, r) ∈ slots) :
    (loadBlock false false slots bus regs).get r = bus.read32 address := by
  induction slots generalizing regs with
  | nil => cases member
  | cons slot rest ih =>
      obtain ⟨first, loaded⟩ := slot
      rw [List.map_cons, List.forall_mem_cons] at notPc
      rw [List.map_cons, List.nodup_cons] at once
      rw [loadBlock_cons first notPc.1]
      rcases List.mem_cons.mp member with same | later
      · obtain ⟨rfl, rfl⟩ := Prod.mk.inj same
        have changes := changedOnly_loadBlock notPc.2 bus (regs.set r (bus.read32 address))
        rw [changes.kept r once.1, RegisterFile.get_set_self]
      · exact ih notPc.2 once.2 _ later

end Arm

end Handheld
