import Handheld.Proofs.Arm.BlockSemantics
import Handheld.Proofs.Memory.WorkRam
import Handheld.Proofs.Thumb.ArmTransfer

/-!
# Saving registers on a stack

A store of several registers that moves its base is undone by the load that goes the other way from
where the base has gone (`StackPair`): both lay out the same block
(`Arm.BlockOperands.start_mirrored`, `Arm.BlockOperands.finalBase_mirrored`). If the block lies in
work memory its words are different words, so the load finds what was stored, and the registers are
back whatever was done to them in between (`StackPair.round_trip`).
-/

namespace Handheld

namespace Arm

/-- The other direction, from the other side. -/
def Indexing.mirrored (indexing : Indexing) : Indexing where
  preIndex := !indexing.preIndex
  up := !indexing.up
  writeBack := indexing.writeBack

namespace BlockOperands

def mirrored (t : BlockOperands) : BlockOperands :=
  { t with load := true, indexing := t.indexing.mirrored }

variable {t : BlockOperands} {m after : Machine}

theorem base_of_ne (notPc : t.rn ≠ .pc) (m : Machine) : t.base m = m.regs.get t.rn := if_neg notPc

/-- Coming back from where the base has gone, the base ends where it was. -/
theorem finalBase_mirrored (moved : t.mirrored.base after = t.finalBase m) :
    t.mirrored.finalBase after = t.base m := by
  unfold finalBase
  rw [moved]
  obtain ⟨load, userBank, ⟨preIndex, up, writeBack⟩, rn, registers⟩ := t
  cases up with
  | true => exact BitVec.add_sub_cancel _ _
  | false => exact BitVec.sub_add_cancel _ _

/-- Coming back from where the base has gone, a load starts where the store did. Ascending and
descending, before and after, all four pairings are one equation. -/
theorem start_mirrored (moved : t.mirrored.base after = t.finalBase m) :
    t.mirrored.start after = t.start m := by
  have back := finalBase_mirrored moved
  unfold finalBase at moved back
  unfold start
  rw [moved] at back ⊢
  obtain ⟨load, userBank, ⟨preIndex, up, writeBack⟩, rn, registers⟩ := t
  cases up with
  | true =>
      cases preIndex with
      | true => exact congrArg (· + 4) back
      | false => exact back
  | false => cases preIndex <;> rfl

end BlockOperands

end Arm

namespace Thumb

/-- A Thumb load of registers other than `r15` is that of ARM, register by register. -/
theorem loadSlots_eq_loadBlock {slots : List (Word × RegNum)} (notPc : .pc ∉ slots.map (·.2))
    (bus : Bus) (regs : RegisterFile) :
    loadSlots slots bus regs = Arm.loadBlock false false slots bus regs := by
  induction slots generalizing regs with
  | nil => rfl
  | cons slot rest ih =>
      obtain ⟨address, r⟩ := slot
      rw [List.map_cons, List.mem_cons, not_or] at notPc
      have first : regs.assign r (bus.read32 address) = regs.set r (bus.read32 address) :=
        regs.assign_of_ne (Ne.symm notPc.1) _
      rw [Arm.loadBlock_cons address (Ne.symm notPc.1), ← first]
      exact ih notPc.2 _

/-- A list of low registers does not name a high one. -/
theorem ne_of_mem_listedLow {registers : Byte} {r high : RegNum} (above : 8 ≤ high.val)
    (member : r ∈ listedLow registers) : r ≠ high :=
  RegNum.ne_of_low (allLow_listedRegisters registers r member) above

/-- `PUSH` of low registers is a decrementing block store to the stack pointer with write-back, so
that it needs no proof of its own. -/
theorem push_eq_blockTransfer {registers : Byte} (nonempty : registers.setWidth 16 ≠ 0)
    (m : Machine) :
    push false registers m =
      Arm.blockTransfer false false .decrementBefore .sp (registers.setWidth 16) m := by
  rw [Arm.blockTransfer_store_of_notMem sp_ne_pc rfl (Arm.block_decrementBefore nonempty)]
  · simp only [push, Bool.false_eq_true, ↓reduceIte, List.append_nil]
    rfl
  · rw [snd_transferSlots]
    exact fun r member => ne_of_mem_listedLow (by decide) member
  · rw [snd_transferSlots]
    intro member
    exact absurd rfl (ne_of_mem_listedLow (by decide : 8 ≤ RegNum.sp.val) member)

/-- `POP` of low registers is an incrementing block load from the stack pointer with write-back, the
mirror image of `PUSH`. -/
theorem pop_eq_blockTransfer {registers : Byte} (nonempty : registers.setWidth 16 ≠ 0)
    (m : Machine) :
    pop false registers m =
      Arm.blockTransfer true false .incrementAfter .sp (registers.setWidth 16) m := by
  have low : AllLow ((transferSlots (m.regs.get .sp) (listedLow registers)).map (·.2)) := by
    rw [snd_transferSlots]
    exact allLow_listedRegisters registers
  have notPc : .pc ∉ (transferSlots (m.regs.get .sp) (listedLow registers)).map (·.2) :=
    fun member => RegNum.ne_of_low (low .pc member) (by decide) rfl
  rw [Arm.blockTransfer_load sp_ne_pc rfl (Arm.block_incrementAfter nonempty)]
  simp only [pop, Bool.false_eq_true, ↓reduceIte, List.append_nil]
  rw [loadSlots_set_comm _ low (by decide), loadSlots_eq_loadBlock notPc]
  rfl

end Thumb

/-! ## Words stored in slots -/

section Slots

variable {start : Word} {listed : List RegNum}

/-- Up to sixteen registers are stored in different words of work memory, since even the smaller of
its two parts is longer than that. -/
theorem pairwise_transferSlots (few : listed.length ≤ 16)
    (work : ∀ slot ∈ transferSlots start listed, (Bus.workCell? slot.1.alignWord).isSome) :
    (transferSlots start listed).Pairwise fun first second =>
      Bus.workCell? first.1.alignWord ≠ Bus.workCell? second.1.alignWord := by
  rw [List.pairwise_iff_getElem]
  intro i j boundI boundJ before
  have present := work _ (List.getElem_mem boundI)
  rw [length_transferSlots] at boundJ
  simp only [fst_transferSlots] at present ⊢
  exact Bus.workCell?_ne_of_consecutive before (Nat.lt_of_lt_of_le boundJ few) present

/-- What is stored for a register is read back from its slot, as no other slot is the same word of
memory. -/
theorem read32_storeSlots (few : listed.length ≤ 16)
    (work : ∀ slot ∈ transferSlots start listed, (Bus.workCell? slot.1.alignWord).isSome)
    (value : RegNum → Word) {slot : Word × RegNum} (member : slot ∈ transferSlots start listed)
    (m : Machine) :
    (m.storeWords ((transferSlots start listed).map fun slot =>
      (slot.1, value slot.2))).bus.read32 slot.1 = value slot.2 :=
  Bus.read32_storeWords (List.forall_mem_map.mpr work)
    (List.pairwise_map.mpr (pairwise_transferSlots few work)) (List.mem_map_of_mem member) m

end Slots

theorem length_listedRegisters_le (registers : Half) : (listedRegisters registers).length ≤ 16 :=
  Nat.le_trans (List.length_filter_le _ _) (Nat.le_of_eq List.length_finRange)

/-! ## Pairs of a store and a load -/

/-- A store of several registers that moves its base, and the load that undoes it. -/
inductive StackPair where
  /-- `STMDB` and `LDMIA`, `STMIA` and `LDMDB`, `STMDA` and `LDMIB`, `STMIB` and `LDMDA`. -/
  | block (preIndex up : Bool) (rn : RegNum) (registers : Half)
  /-- `PUSH` and `POP` of low registers. -/
  | pushPop (registers : Byte)

namespace StackPair

/-- What is stored, and how. -/
def operands : StackPair → Arm.BlockOperands
  | block preIndex up rn registers => ⟨false, false, ⟨preIndex, up, true⟩, rn, registers⟩
  | pushPop registers => ⟨false, false, .decrementBefore, .sp, registers.setWidth 16⟩

def base (pair : StackPair) : RegNum := pair.operands.rn

/-- The registers that are stored and loaded. -/
def listed (pair : StackPair) : List RegNum := listedRegisters pair.operands.registers

def store : StackPair → Machine → Machine
  | block preIndex up rn registers =>
    (Arm.Instruction.blockTransfer false false ⟨preIndex, up, true⟩ rn registers).execute
  | pushPop registers => (Thumb.Instruction.pushPop false false registers).execute

def load : StackPair → Machine → Machine
  | block preIndex up rn registers =>
    (Arm.Instruction.blockTransfer true false ⟨!preIndex, !up, true⟩ rn registers).execute
  | pushPop registers => (Thumb.Instruction.pushPop true false registers).execute

/-- The places of the stored registers. -/
def slots (pair : StackPair) (m : Machine) : List (Word × RegNum) :=
  transferSlots (pair.operands.start m) pair.listed

/-- What the store writes to them. -/
def writes (pair : StackPair) (m : Machine) : List (Word × Word) :=
  (pair.slots m).map fun slot => (slot.1, m.regs.get slot.2)

/-- The words that the store writes. -/
def window (pair : StackPair) (m : Machine) : List Word :=
  (List.range pair.listed.length).map (pair.operands.place m)

/-- Whether an address stands for a byte of the words that the store writes. -/
def Covers (pair : StackPair) (m : Machine) (address : Word) : Prop :=
  ∃ word ∈ pair.window m, ∃ lane : Word, lane.toNat < 4 ∧ SameCell address (word ||| lane)

def overwrite (listed : List RegNum) (values : RegNum → Word) (regs : RegisterFile) :
    RegisterFile :=
  listed.foldl (fun regs r => regs.set r (values r)) regs

/-- The base and `r15` are not among the stored registers, and there are some. -/
structure Regular (pair : StackPair) : Prop where
  base : pair.base ≠ .pc
  nonempty : pair.listed ≠ []
  notBase : pair.base ∉ pair.listed
  notPc : .pc ∉ pair.listed

variable {pair : StackPair} {m : Machine}

/-- A regular pair transfers at least one register. -/
theorem Regular.registers_ne_zero (regular : pair.Regular) : pair.operands.registers ≠ 0 := by
  intro zero
  refine regular.nonempty ?_
  rw [listed, zero]
  decide

/-- It transfers exactly the registers that it names, with nothing put in place of an empty list. -/
theorem Regular.listed_eq (regular : pair.Regular) : pair.operands.listed = pair.listed :=
  if_neg regular.registers_ne_zero

/-- Its slots hold the listed registers in ascending order. -/
theorem map_snd_slots (pair : StackPair) (m : Machine) : (pair.slots m).map (·.2) = pair.listed :=
  snd_transferSlots _ _

/-- None of them is the program counter. -/
theorem Regular.ne_pc (regular : pair.Regular) : ∀ r ∈ (pair.slots m).map (·.2), r ≠ .pc := by
  rw [map_snd_slots]
  exact fun r member isPc => regular.notPc (isPc ▸ member)

/-- Both halves of a pair write the base back. -/
theorem writeBack_operands (pair : StackPair) : pair.operands.indexing.writeBack = true := by
  cases pair <;> rfl

/-- The block of the store is that of the pair: its slots, in ascending order of registers and
addresses, and the base that is left after it. -/
theorem Regular.block_eq (regular : pair.Regular) (m : Machine) :
    pair.operands.indexing.block (m.regs.get pair.base) pair.operands.registers =
      ⟨pair.slots m, pair.operands.finalBase m⟩ := by
  have laidOut := pair.operands.block_eq m
  rwa [Arm.BlockOperands.base_of_ne regular.base, regular.listed_eq] at laidOut

/-- The store writes the registers as they are and moves the base. A base in the list would be a
special case, and a regular pair has none. -/
theorem Regular.store_eq (regular : pair.Regular) (m : Machine) :
    pair.store m =
      (m.storeWords (pair.writes m)).mapRegs (·.set pair.base (pair.operands.finalBase m)) := by
  have notBase : pair.base ∉ (pair.slots m).map (·.2) := by
    rw [map_snd_slots]
    exact regular.notBase
  have stored := Arm.blockTransfer_store_of_notMem regular.base pair.writeBack_operands
    (regular.block_eq m) regular.ne_pc notBase
  cases pair with
  | block preIndex up rn registers => exact stored
  | pushPop registers =>
      exact (Thumb.push_eq_blockTransfer regular.registers_ne_zero m).trans stored

/-- Where the base has gone to, the load reads the words that the store has written, and moves the
base back. -/
theorem Regular.load_eq (regular : pair.Regular) {after : Machine}
    (moved : after.regs.get pair.base = pair.operands.finalBase m) :
    pair.load after =
      { after with
        regs := Arm.loadBlock false false (pair.slots m) after.bus
          (after.regs.set pair.base (m.regs.get pair.base)) } := by
  have movedBase : pair.operands.mirrored.base after = pair.operands.finalBase m :=
    (Arm.BlockOperands.base_of_ne regular.base after).trans moved
  have laidOut : pair.operands.indexing.mirrored.block (after.regs.get pair.base)
      pair.operands.registers = ⟨pair.slots m, m.regs.get pair.base⟩ := by
    have block := pair.operands.mirrored.block_eq after
    rw [Arm.BlockOperands.start_mirrored movedBase, Arm.BlockOperands.finalBase_mirrored movedBase,
      movedBase, ← moved, Arm.BlockOperands.base_of_ne regular.base m] at block
    rw [slots, ← regular.listed_eq]
    exact block
  have writeBack : pair.operands.indexing.mirrored.writeBack = true := pair.writeBack_operands
  have loaded := Arm.blockTransfer_load (m := after) regular.base writeBack laidOut
  cases pair with
  | block preIndex up rn registers => exact loaded
  | pushPop registers =>
      exact (Thumb.pop_eq_blockTransfer regular.registers_ne_zero after).trans loaded

/-! ## The round trip -/

/-- Every word that the store writes lies in work memory. -/
def InWorkMemory (pair : StackPair) (m : Machine) : Prop :=
  ∀ word ∈ pair.window m, Region.ofAddress word = .ewram ∨ Region.ofAddress word = .iwram

instance (pair : StackPair) (m : Machine) : Decidable (pair.InWorkMemory m) :=
  List.decidableBAll _ (pair.window m)

/-- The words that the pair transfers all lie in its window. -/
theorem mem_window {slot : Word × RegNum} (member : slot ∈ pair.slots m) :
    slot.1.alignWord ∈ pair.window m := by
  obtain ⟨k, bound, rfl⟩ := List.mem_iff_getElem.mp member
  rw [slots, length_transferSlots] at bound
  refine List.mem_map.mpr ⟨k, List.mem_range.mpr bound, ?_⟩
  rw [Arm.BlockOperands.place, ← fst_transferSlots]
  rfl

/-- In work memory every slot is a cell that keeps what is stored in it. -/
theorem work_slots (work : pair.InWorkMemory m) :
    ∀ slot ∈ pair.slots m, (Bus.workCell? slot.1.alignWord).isSome := by
  intro slot member
  unfold Bus.workCell?
  rcases work _ (mem_window member) with region | region <;> rw [region] <;> rfl

/-- Overwriting the listed registers changes no others. -/
theorem changedOnly_overwrite (listed : List RegNum) (values : RegNum → Word)
    (regs : RegisterFile) : regs.ChangedOnly listed (overwrite listed values regs) := by
  induction listed generalizing regs with
  | nil => exact .refl regs
  | cons r rest ih => exact (RegisterFile.ChangedOnly.set regs r (values r)).trans (ih _)

/-- Every store of the pair goes to work memory. -/
theorem work_writes (work : pair.InWorkMemory m) :
    ∀ write ∈ pair.writes m, (Bus.workCell? write.1.alignWord).isSome :=
  List.forall_mem_map.mpr (work_slots work)

/-- After the store each slot holds its register. This is where the slots have to be different
cells, which they are in a window that is no larger than the memory. -/
theorem read32_writes (work : pair.InWorkMemory m) {slot : Word × RegNum}
    (member : slot ∈ pair.slots m) :
    (m.storeWords (pair.writes m)).bus.read32 slot.1 = m.regs.get slot.2 :=
  read32_storeSlots (length_listedRegisters_le _) (work_slots work) m.regs.get member m

/-- Nothing but the window has changed in memory: a byte that none of the stored words covers is
read as before, mirrors included. -/
theorem read8_writes (work : pair.InWorkMemory m) {address : Word}
    (outside : ¬ pair.Covers m address) :
    (m.storeWords (pair.writes m)).bus.read8 address = m.bus.read8 address := by
  refine Bus.read8_storeWords_of_apart (work_writes work) (List.forall_mem_map.mpr ?_) m
  intro slot member lane inWord same
  exact outside ⟨_, mem_window member, lane, inWord, same⟩

/-- A load from memory in which the registers are stored restores them and the base, whatever the
listed registers and `r15` were before. -/
theorem restored (regular : pair.Regular) {bus : Bus}
    (stored : ∀ slot ∈ pair.slots m, bus.read32 slot.1 = m.regs.get slot.2)
    {regs : RegisterFile}
    (changes : m.regs.ChangedOnly (pair.base :: pair.listed ++ [.pc]) regs) :
    Arm.loadBlock false false (pair.slots m) bus (regs.set pair.base (m.regs.get pair.base)) =
      m.regs.setPc regs.pc := by
  have listed := pair.map_snd_slots m
  have notPc := regular.ne_pc (m := m)
  have loads := Arm.changedOnly_loadBlock notPc bus (regs.set pair.base (m.regs.get pair.base))
  have whole := (changes.trans (.set regs pair.base (m.regs.get pair.base))).trans loads
  refine whole.eq_of_get (.set m.regs .pc regs.pc) fun r => ?_
  by_cases member : r ∈ pair.listed
  · rw [← listed] at member
    obtain ⟨slot, present, rfl⟩ := List.mem_map.mp member
    have once : ((pair.slots m).map (·.2)).Nodup := by
      rw [listed]
      exact (pairwise_listedRegisters _).imp Fin.ne_of_lt
    rw [Arm.get_loadBlock notPc once bus _ present, stored slot present, RegisterFile.setPc,
      RegisterFile.get_set_of_ne _ (notPc _ member)]
  · rw [loads.kept r (by rw [listed]; exact member), RegisterFile.get_set, RegisterFile.setPc,
      RegisterFile.get_set]
    by_cases isBase : r = pair.base
    · subst isBase
      rw [if_pos rfl, if_neg regular.base]
    · rw [if_neg isBase]
      by_cases isPc : r = .pc
      · rw [if_pos isPc, isPc]
        rfl
      · rw [if_neg isPc, changes.kept]
        simp only [List.cons_append, List.mem_cons, List.mem_append, List.not_mem_nil, isBase,
          member, isPc, or_self, not_false_eq_true]

/-- Storing registers on a stack in work memory, doing anything to them, and loading them restores
them and the base. Every other register, every bank and every status is as before, `r15` apart,
which has moved on; and no byte of memory has changed that the stored words do not stand for. -/
theorem round_trip (pair : StackPair) (values : RegNum → Word) (next : Word) (m : Machine)
    (regular : pair.Regular) (work : pair.InWorkMemory m) :
    let resumed := (pair.store m).mapRegs fun regs => (overwrite pair.listed values regs).setPc next
    let after := pair.load resumed
    after.regs = m.regs.setPc next ∧ after.bus.io = m.bus.io ∧
      ∀ address, ¬ pair.Covers m address → after.bus.read8 address = m.bus.read8 address := by
  intro resumed after
  have stored := regular.store_eq m
  have bus : resumed.bus = (m.storeWords (pair.writes m)).bus := by
    show (pair.store m).bus = _
    rw [stored]
    rfl
  have registers : resumed.regs = (overwrite pair.listed values
      (m.regs.set pair.base (pair.operands.finalBase m))).setPc next := by
    show (overwrite pair.listed values (pair.store m).regs).setPc next = _
    rw [stored]
    rfl
  have changes : m.regs.ChangedOnly (pair.base :: pair.listed ++ [.pc]) resumed.regs := by
    rw [registers]
    exact ((RegisterFile.ChangedOnly.set _ _ _).trans (changedOnly_overwrite _ values _)).trans
      (.set _ _ next)
  have moved : resumed.regs.get pair.base = pair.operands.finalBase m := by
    rw [registers, RegisterFile.setPc, RegisterFile.get_set_of_ne _ regular.base,
      (changedOnly_overwrite _ values _).kept _ regular.notBase, RegisterFile.get_set_self]
  have loaded : after = ⟨Arm.loadBlock false false (pair.slots m) resumed.bus
      (resumed.regs.set pair.base (m.regs.get pair.base)), resumed.bus⟩ := regular.load_eq moved
  have pc : resumed.regs.pc = next := by
    rw [registers, RegisterFile.pc_setPc]
  rw [loaded, bus]
  refine ⟨?_, Bus.io_storeWords (work_writes work) m, fun address => read8_writes work⟩
  rw [restored regular (fun slot => read32_writes work) changes, pc]

/-- A stack pointer that is not aligned, and a window that goes on from the memory outside the
processor to the one on it. -/
theorem round_trip_across_memories :
    let pair := block true false .sp 0x500F
    let m : Machine := ⟨RegisterFile.powerOn.set .sp 0x0300000A, .powerOn⟩
    let resumed := (pair.store m).mapRegs fun regs =>
      (overwrite pair.listed (fun _ => 0xDEADBEEF) regs).setPc 0x08000008
    pair.window m = [0x02FFFFF0, 0x02FFFFF4, 0x02FFFFF8, 0x02FFFFFC, 0x03000000, 0x03000004] ∧
      (pair.load resumed).regs = m.regs.setPc 0x08000008 := by
  intro pair m resumed
  have window : pair.window m =
      [0x02FFFFF0, 0x02FFFFF4, 0x02FFFFF8, 0x02FFFFFC, 0x03000000, 0x03000004] := by decide
  have regular : pair.Regular := ⟨by decide, by decide, by decide, by decide⟩
  have work : pair.InWorkMemory m := by decide
  exact ⟨window, (round_trip pair _ _ m regular work).1⟩

end StackPair

end Handheld
