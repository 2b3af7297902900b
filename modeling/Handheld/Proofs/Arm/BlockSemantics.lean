import Handheld.Cpu.Step
import Handheld.Proofs.Alignment
import Handheld.Proofs.Arm.BlockTransfer
import Mathlib.Data.List.Sort

/-!
# What a block transfer means

A block transfer told without the loop that carries it out: which registers it lists, where the
block starts, at which address each register lies and what becomes of the base (`BlockOperands`).
`BlockOperands.Loaded` says what a load leaves in every register of every mode and in the status,
`BlockOperands.Stored` which words a store writes, and `BlockOperands.execute_meaning` that every
transfer of every machine does so.
-/

namespace Handheld

/-! ## Words by their addresses -/

/-- An aligned address is aligned already. -/
@[simp] theorem Word.alignWord_alignWord (address : Word) :
    address.alignWord.alignWord = address.alignWord := by
  rw [Word.alignWord_eq_self_iff, Word.toNat_alignWord]
  exact Nat.mul_mod_left _ _

/-- A read of a word finds the aligned word by itself. -/
@[simp] theorem Bus.read32_alignWord (bus : Bus) (address : Word) :
    bus.read32 address.alignWord = bus.read32 address := by
  unfold Bus.read32
  dsimp only
  rw [Word.alignWord_alignWord]

/-- A write of a word finds the aligned word by itself. -/
@[simp] theorem Bus.write32_alignWord (bus : Bus) (address value : Word) :
    bus.write32 address.alignWord value = bus.write32 address value := by
  unfold Bus.write32
  dsimp only
  rw [Word.alignWord_alignWord]

/-- The registers of a list go to consecutive words, the first one to the start, so that the place
of a register follows from its position alone. -/
theorem transferSlots_eq_zipIdx (start : Word) (listed : List RegNum) :
    transferSlots start listed =
      listed.zipIdx.map fun slot => (start + BitVec.ofNat 32 (4 * slot.2), slot.1) := by
  apply List.ext_getElem?
  intro k
  rw [getElem?_transferSlots, List.getElem?_map, List.getElem?_zipIdx, Option.map_map,
    Nat.zero_add]
  rfl

/-- The last register of a list goes to the word after those of the others, which is how `r15` is
split off from the rest. -/
theorem transferSlots_concat (start : Word) (listed : List RegNum) (last : RegNum) :
    transferSlots start (listed ++ [last]) =
      transferSlots start listed ++ [(start + BitVec.ofNat 32 (4 * listed.length), last)] := by
  simp only [transferSlots_eq_zipIdx, List.zipIdx_append, List.map_append, Nat.zero_add,
    List.zipIdx_singleton, List.map_singleton]

/-! ## Lists of registers -/

/-- A list holds the registers whose bits are set. -/
theorem mem_listedRegisters {registers : Half} {r : RegNum} :
    r ∈ listedRegisters registers ↔ registers.getLsbD r.val = true := by
  rw [listedRegisters, List.mem_filter]
  exact and_iff_right (List.mem_finRange r)

/-- A list goes from the lower registers to the higher ones. -/
theorem pairwise_listedRegisters (registers : Half) :
    (listedRegisters registers).Pairwise (· < ·) :=
  (List.pairwise_lt_finRange 16).filter _

/-- Fewer than sixteen bits list the lowest registers only. -/
theorem mem_listedRegisters_setWidth {w : Nat} {low : BitVec w} {r : RegNum} :
    r ∈ listedRegisters (low.setWidth 16) ↔ low.getLsbD r.val = true := by
  rw [mem_listedRegisters, BitVec.getLsbD_setWidth, decide_eq_true r.isLt, Bool.true_and]

/-- A register above the others comes last, as in the lists of `PUSH` and `POP` with their high
register. -/
theorem listedRegisters_or_twoPow {w : Nat} (low : BitVec w) (top : RegNum) (above : w ≤ top.val) :
    listedRegisters (low.setWidth 16 ||| BitVec.twoPow 16 top.val) =
      listedRegisters (low.setWidth 16) ++ [top] := by
  refine (pairwise_listedRegisters _).eq_of_mem_iff ?_ fun r => ?_
  · refine List.pairwise_append.mpr ⟨pairwise_listedRegisters _, List.pairwise_singleton _ _, ?_⟩
    intro r member last isTop
    rw [List.mem_singleton.mp isTop]
    exact Nat.lt_of_lt_of_le (BitVec.lt_of_getLsbD (mem_listedRegisters_setWidth.mp member)) above
  · rw [mem_listedRegisters, BitVec.getLsbD_or, Bool.or_eq_true, ← mem_listedRegisters,
      BitVec.getLsbD_twoPow, decide_eq_true top.isLt, Bool.true_and, decide_eq_true_iff,
      List.mem_append, List.mem_singleton, eq_comm, Fin.val_inj]

/-- In an ascending list nothing follows `r15`, so that a list with it is one without it and then
`r15`. -/
theorem eq_concat_of_pc_mem {listed : List RegNum} (ascending : listed.Pairwise (· < ·))
    (member : .pc ∈ listed) : ∃ low, listed = low ++ [.pc] ∧ .pc ∉ low := by
  obtain ⟨low, above, rfl⟩ := List.append_of_mem member
  rw [List.pairwise_append, List.pairwise_cons] at ascending
  obtain ⟨-, ⟨last, -⟩, below⟩ := ascending
  have none : above = [] := by
    refine List.eq_nil_iff_forall_not_mem.mpr fun r later => ?_
    exact absurd (last r later) (Fin.not_lt.mpr (Fin.le_last r))
  subst none
  exact ⟨low, rfl, fun again => absurd (below .pc again .pc List.mem_cons_self) (Fin.lt_irrefl _)⟩

namespace Arm

/-- A transfer of several registers. -/
structure BlockOperands where
  load : Bool
  /-- The registers are those of User mode, or a load that lists `r15` restores the status. -/
  userBank : Bool
  indexing : Indexing
  rn : RegNum
  /-- Bit `i` lists register `i`. -/
  registers : Half

namespace BlockOperands

variable (t : BlockOperands) (m : Machine)

def instruction : Instruction := .blockTransfer t.load t.userBank t.indexing t.rn t.registers

/-- The transferred registers. An empty list transfers `r15`. -/
def listed : List RegNum := if t.registers = 0 then [.pc] else listedRegisters t.registers

/-- Bytes the base moves by. An empty list counts as sixteen registers. -/
def span : Word := if t.registers = 0 then 0x40 else BitVec.ofNat 32 (4 * t.listed.length)

/-- The value of the base register, which for `r15` is two instructions ahead. -/
def base : Word := if t.rn = .pc then m.regs.pc.alignWord + 8 else m.regs.get t.rn

/-- Where the block starts. -/
def start : Word :=
  match t.indexing.preIndex, t.indexing.up with
  | false, true => t.base m
  | true, true => t.base m + 4
  | false, false => t.base m - t.span + 4
  | true, false => t.base m - t.span

/-- The address of the `k`-th register of the block. -/
def place (k : Nat) : Word := (t.start m + BitVec.ofNat 32 (4 * k)).alignWord

/-- Where the base moves to. -/
def finalBase : Word := if t.indexing.up then t.base m + t.span else t.base m - t.span

/-- Whether the saved status becomes current. -/
def restores : Bool := t.load && t.userBank && t.listed.contains .pc

/-- The mode whose registers are transferred. -/
def owner : Mode := if t.userBank && !t.restores then .user else m.regs.mode

/-- A register of a mode after the base is written back. -/
def moved (mode : Mode) (r : RegNum) : Word :=
  if t.indexing.writeBack = true ∧ r = t.rn ∧ m.regs.mode.Shares mode r then t.finalBase m
  else m.regs.banked mode r

/-- The value a store writes for a register. -/
def storedValue (r : RegNum) : Word :=
  if r = .pc then m.regs.pc.alignWord + 12
  else if t.userBank then m.regs.banked .user r
  else if t.indexing.writeBack = true ∧ r = t.rn ∧ t.listed.head? ≠ some r then t.finalBase m
  else m.regs.get r

/-- What a load makes of a machine. -/
structure Loaded (after : Machine) : Prop where
  bus : after.bus = m.bus
  /-- The listed registers come from memory, a listed base included. -/
  loaded : ∀ k r, t.listed[k]? = some r → r ≠ .pc → ∀ mode, (t.owner m).Shares mode r →
    after.regs.banked mode r = m.bus.read32 (t.place m k)
  /-- The others are as they were, but for the base. -/
  others : ∀ mode r, r ≠ .pc → ¬ (r ∈ t.listed ∧ (t.owner m).Shares mode r) →
    after.regs.banked mode r = t.moved m mode r
  pcLoaded : ∀ k, t.listed[k]? = some .pc →
    after.regs.pc = after.regs.instructionSet.align (m.bus.read32 (t.place m k))
  pcKept : .pc ∉ t.listed → after.regs.pc = m.regs.pc.alignWord + 4
  /-- A saved status without a valid mode field keeps the current mode. -/
  cpsr : after.regs.cpsr =
    if t.restores then
      (m.regs.spsr?.map fun status =>
        Status.withMode status ((Mode.ofBits? (Status.modeField status)).getD m.regs.mode)).getD
          m.regs.cpsr
    else m.regs.cpsr
  saved : ∀ mode, after.regs.savedStatus? mode = m.regs.savedStatus? mode

/-- What a store makes of a machine. -/
structure Stored (after : Machine) : Prop where
  bus : after.bus = t.listed.zipIdx.foldl
    (fun bus slot => bus.write32 (t.place m slot.2) (t.storedValue m slot.1)) m.bus
  registers : ∀ mode r, r ≠ .pc → after.regs.banked mode r = t.moved m mode r
  pc : after.regs.pc = m.regs.pc.alignWord + 4
  cpsr : after.regs.cpsr = m.regs.cpsr
  saved : ∀ mode, after.regs.savedStatus? mode = m.regs.savedStatus? mode

/-! ## Layout -/

/-- The block that is laid out has the words and the final base that its description gives. All four
ways of indexing and the empty list come together here. -/
theorem block_eq :
    t.indexing.block (t.base m) t.registers =
      ⟨transferSlots (t.start m) t.listed, t.finalBase m⟩ := by
  obtain ⟨load, userBank, ⟨preIndex, up, writeBack⟩, rn, registers⟩ := t
  cases preIndex <;> cases up <;> rfl

/-- The registers of a transfer ascend, also when an empty list stands for `r15`. -/
theorem pairwise_listed : t.listed.Pairwise (· < ·) := by
  unfold listed
  split
  · exact List.pairwise_singleton _ _
  · exact pairwise_listedRegisters _

/-- No register is transferred twice. -/
theorem nodup_listed : t.listed.Nodup := t.pairwise_listed.imp Fin.ne_of_lt

/-- The registers that are transferred are those of the list, or `r15` if the list is empty. That is
what this processor does with an empty list. -/
theorem mem_listed {r : RegNum} :
    r ∈ t.listed ↔ t.registers = 0 ∧ r = .pc ∨ t.registers.getLsbD r.val = true := by
  unfold listed
  split
  · rename_i empty
    simp only [List.mem_singleton, empty, true_and, BitVec.ofNat_eq_ofNat, BitVec.getLsbD_zero,
      Bool.false_eq_true, or_false]
  · rename_i nonempty
    simp only [mem_listedRegisters, nonempty, false_and, false_or]

/-! ## The base -/

/-- The base is read when `r15` has moved on, which matters to no other register. As a base `r15`
reads two instructions ahead. -/
theorem read_advance : read (m.advance .arm).regs t.rn = t.base m := by
  unfold read base
  by_cases atPc : t.rn = .pc
  · rw [if_pos atPc, RegisterFile.operand, if_pos atPc]
    show (m.regs.setPc _).pc + 4 = _
    rw [RegisterFile.pc_setPc]
    exact BitVec.add_assoc _ 4 4
  · rw [if_neg atPc, RegisterFile.operand_of_ne _ atPc]
    exact m.regs.get_set_of_ne atPc _

/-- The registers after the base is written back. -/
def finish (regs : RegisterFile) : RegisterFile :=
  if t.indexing.writeBack then regs.writeBack t.rn (t.finalBase m) else regs

/-- The base is written back in the current mode; `r15` never is. -/
structure Finished (after : RegisterFile) : Prop where
  registers : ∀ mode r, r ≠ .pc → after.banked mode r = t.moved m mode r
  pc : after.pc = m.regs.pc.alignWord + 4
  cpsr : after.cpsr = m.regs.cpsr
  saved : ∀ mode, after.savedStatus? mode = m.regs.savedStatus? mode

/-- The base has its final value if it is written back, and every other register is as before, in
every mode. `r15` as a base is never written back. -/
theorem finished_finish : t.Finished m (t.finish m (m.advance .arm).regs) := by
  have others (mode : Mode) {r : RegNum} (notPc : r ≠ .pc) :
      (m.advance .arm).regs.banked mode r = m.regs.banked mode r :=
    m.regs.banked_setPc _ notPc mode
  have pc : (m.advance .arm).regs.pc = m.regs.pc.alignWord + 4 := m.regs.pc_setPc _
  by_cases writes : t.indexing.writeBack = true ∧ t.rn ≠ .pc
  · obtain ⟨writeBack, notPc⟩ := writes
    have finish : t.finish m (m.advance .arm).regs =
        (m.advance .arm).regs.set t.rn (t.finalBase m) := by
      rw [BlockOperands.finish, if_pos writeBack, RegisterFile.writeBack_of_ne _ notPc]
    rw [finish]
    refine ⟨fun mode r other => ?_, ?_, rfl, fun _ => rfl⟩
    · have current : (m.advance .arm).regs.mode = m.regs.mode := m.regs.mode_set _ _
      rw [RegisterFile.banked_set, others mode other, moved, current]
      simp only [RegisterFile.sharedBy_iff, writeBack, true_and]
      by_cases same : r = t.rn <;> simp only [same, true_and, false_and]
    · rw [RegisterFile.pc_set_of_ne _ notPc, pc]
  · have finish : t.finish m (m.advance .arm).regs = (m.advance .arm).regs := by
      rw [BlockOperands.finish]
      split
      · rename_i writeBack
        exact if_pos (Classical.not_not.mp fun notPc => writes ⟨writeBack, notPc⟩)
      · rfl
    rw [finish]
    refine ⟨fun mode r notPc => ?_, pc, rfl, fun _ => rfl⟩
    rw [others mode notPc, moved, if_neg]
    rintro ⟨writeBack, rfl, -⟩
    exact writes ⟨writeBack, notPc⟩

/-! ## Loads -/

end BlockOperands

/-- The words at the addresses of the slots are in the registers of a mode, and nothing else has
changed. -/
structure LoadedFrom (owner : Mode) (slots : List (Word × RegNum)) (bus : Bus)
    (before after : RegisterFile) : Prop where
  loaded : ∀ slot ∈ slots, ∀ mode, owner.Shares mode slot.2 →
    after.banked mode slot.2 = bus.read32 slot.1
  others : ∀ mode r, ¬ (r ∈ slots.map (·.2) ∧ owner.Shares mode r) →
    after.banked mode r = before.banked mode r
  cpsr : after.cpsr = before.cpsr
  saved : ∀ mode, after.savedStatus? mode = before.savedStatus? mode

def loadRegister (userBank : Bool) (regs : RegisterFile) (r : RegNum) (value : Word) :
    RegisterFile :=
  if userBank then regs.setUserRegister r value else regs.set r value

def loadOwner (userBank : Bool) (regs : RegisterFile) : Mode :=
  if userBank then .user else regs.mode

section

variable (userBank : Bool) (regs : RegisterFile) (r : RegNum) (value : Word)

/-- A loaded register is changed for the modes that share it with its owner: User mode if its
registers are asked for, and else the current mode. -/
theorem banked_loadRegister (mode : Mode) (i : RegNum) :
    (loadRegister userBank regs r value).banked mode i =
      if i = r ∧ (loadOwner userBank regs).Shares mode r then value else regs.banked mode i := by
  simp only [← RegisterFile.sharedBy_iff]
  cases userBank with
  | false => exact regs.banked_set r value mode i
  | true => exact regs.banked_setUserRegister r value mode i

theorem cpsr_loadRegister : (loadRegister userBank regs r value).cpsr = regs.cpsr := by
  cases userBank with
  | false => rfl
  | true => exact regs.cpsr_setUserRegister r value

theorem savedStatus?_loadRegister (mode : Mode) :
    (loadRegister userBank regs r value).savedStatus? mode = regs.savedStatus? mode := by
  cases userBank with
  | false => rfl
  | true => exact regs.savedStatus?_setUserRegister r value mode

end

/-- A load of registers other than `r15` loads each of them once and changes nothing else. By
induction on the slots, where a later register never overwrites an earlier one. -/
theorem loadedFrom_loadBlock {slots : List (Word × RegNum)}
    (notPc : .pc ∉ slots.map (·.2)) (once : (slots.map (·.2)).Nodup) (restore userBank : Bool)
    (bus : Bus) (regs : RegisterFile) :
    LoadedFrom (loadOwner userBank regs) slots bus regs
      (loadBlock restore userBank slots bus regs) := by
  induction slots generalizing regs with
  | nil => exact ⟨fun _ member => absurd member List.not_mem_nil, fun _ _ _ => rfl, rfl,
      fun _ => rfl⟩
  | cons slot rest ih =>
      obtain ⟨address, r⟩ := slot
      rw [List.map_cons, List.mem_cons, not_or] at notPc
      rw [List.map_cons, List.nodup_cons] at once
      have first : loadBlock restore userBank ((address, r) :: rest) bus regs =
          loadBlock restore userBank rest bus
            (loadRegister userBank regs r (bus.read32 address)) := by
        simp only [loadBlock, List.foldl_cons, Ne.symm notPc.1, ↓reduceIte, loadRegister]
      have owner : loadOwner userBank (loadRegister userBank regs r (bus.read32 address)) =
          loadOwner userBank regs := by
        unfold loadOwner
        rw [RegisterFile.mode_of_cpsr_eq (cpsr_loadRegister ..)]
      have later := ih notPc.2 once.2 (loadRegister userBank regs r (bus.read32 address))
      rw [owner] at later
      rw [first]
      refine ⟨?_, ?_, later.cpsr.trans (cpsr_loadRegister ..),
        fun mode => (later.saved mode).trans (savedStatus?_loadRegister ..)⟩
      · intro slot member mode shares
        rcases List.mem_cons.mp member with rfl | inRest
        -- the register is not listed again, so the rest of the block keeps it
        · rw [later.others mode r fun again => once.1 again.1, banked_loadRegister,
            if_pos ⟨rfl, shares⟩]
        · exact later.loaded slot inRest mode shares
      · intro mode i notListed
        rw [List.map_cons, List.mem_cons] at notListed
        rw [later.others mode i fun both => notListed ⟨.inr both.1, both.2⟩, banked_loadRegister,
          if_neg fun both => notListed ⟨.inl both.1, by rw [both.1]; exact both.2⟩]

/-- `r15` is loaded last, as the target of a branch, after the saved status was restored if that is
asked for. So the target is aligned for the set that is restored. -/
theorem loadBlock_concat_pc (restore userBank : Bool) (slots : List (Word × RegNum))
    (address : Word) (bus : Bus) (regs : RegisterFile) :
    loadBlock restore userBank (slots ++ [(address, .pc)]) bus regs =
      (if restore then (loadBlock restore userBank slots bus regs).restoreStatus
        else loadBlock restore userBank slots bus regs).branchTo (bus.read32 address) := by
  rw [loadBlock, List.foldl_append]
  rfl

namespace BlockOperands

variable {t : BlockOperands} {m : Machine} {low rest : List RegNum} {start between : RegisterFile}

/-- What is loaded below `r15` is loaded for the whole list: the places are the same, and every
register that the list does not name is as the moved base leaves it. -/
theorem loaded_below (split : t.listed = low ++ rest) (pcOnly : ∀ r ∈ rest, r = .pc)
    (finished : t.Finished m start)
    (loads : LoadedFrom (t.owner m) (transferSlots (t.start m) low) m.bus start between) :
    (∀ k r, t.listed[k]? = some r → r ≠ .pc → ∀ mode, (t.owner m).Shares mode r →
      between.banked mode r = m.bus.read32 (t.place m k)) ∧
    ∀ mode r, r ≠ .pc → ¬ (r ∈ t.listed ∧ (t.owner m).Shares mode r) →
      between.banked mode r = t.moved m mode r := by
  constructor
  · intro k r atPlace notPc mode shares
    have below : low[k]? = some r := by
      rw [split, List.getElem?_append] at atPlace
      split at atPlace
      · exact atPlace
      · exact absurd (pcOnly r (List.mem_of_getElem? atPlace)) notPc
    have slot : (t.start m + BitVec.ofNat 32 (4 * k), r) ∈ transferSlots (t.start m) low := by
      apply List.mem_of_getElem? (i := k)
      rw [getElem?_transferSlots, below]
      rfl
    rw [loads.loaded _ slot mode shares, place, Bus.read32_alignWord]
  · intro mode r notPc notListed
    rw [loads.others, finished.registers mode r notPc]
    rintro ⟨member, shares⟩
    rw [snd_transferSlots] at member
    exact notListed ⟨by rw [split]; exact List.mem_append_left _ member, shares⟩

/-- Without `r15` the status stays as it is, and a load with the S bit goes to the registers of User
mode. -/
theorem loaded_without_pc (notPc : .pc ∉ t.listed) (finished : t.Finished m start)
    (loads : LoadedFrom (t.owner m) (transferSlots (t.start m) t.listed) m.bus start between) :
    t.Loaded m ⟨between, m.bus⟩ := by
  have below := loaded_below (List.append_nil _).symm (fun _ member => nomatch member) finished
    loads
  have noRestore : t.restores = false := by
    rw [restores, List.contains_eq_mem, decide_eq_false notPc, Bool.and_false]
  have pc : between.pc = start.pc := by
    have kept := loads.others .user .pc fun both => notPc (by
      rw [← snd_transferSlots (t.start m) t.listed]
      exact both.1)
    rwa [RegisterFile.banked_pc, RegisterFile.banked_pc] at kept
  refine ⟨rfl, below.1, below.2, ?_, fun _ => pc.trans finished.pc, ?_, ?_⟩
  · exact fun k atPlace => absurd (List.mem_of_getElem? atPlace) notPc
  · rw [noRestore, if_neg Bool.false_ne_true]
    exact loads.cpsr.trans finished.cpsr
  · exact fun mode => (loads.saved mode).trans (finished.saved mode)

/-- With `r15` the saved status comes back, if it is to, and then execution goes on at the word
loaded last. -/
theorem loaded_with_pc (split : t.listed = low ++ [.pc]) (notPc : .pc ∉ low)
    (finished : t.Finished m start)
    (loads : LoadedFrom (t.owner m) (transferSlots (t.start m) low) m.bus start between) :
    t.Loaded m
      ⟨(if t.restores then between.restoreStatus else between).branchTo
        (m.bus.read32 (t.start m + BitVec.ofNat 32 (4 * low.length))), m.bus⟩ := by
  have below := loaded_below split (fun r => List.mem_singleton.mp) finished loads
  have cpsr : between.cpsr = m.regs.cpsr := loads.cpsr.trans finished.cpsr
  have saved (mode : Mode) : between.savedStatus? mode = m.regs.savedStatus? mode :=
    (loads.saved mode).trans (finished.saved mode)
  have mode : between.mode = m.regs.mode :=
    RegisterFile.mode_of_cpsr_eq cpsr
  have kept (mode : Mode) (r : RegNum) :
      (if t.restores then between.restoreStatus else between).banked mode r =
        between.banked mode r := by
    split
    · exact between.banked_restoreStatus mode r
    · rfl
  refine ⟨rfl, fun k r atPlace notPc mode shares => ?_, fun mode r notPc notListed => ?_,
    fun k atPlace => ?_, fun notListed => ?_, ?_, fun mode => ?_⟩
  · rw [RegisterFile.branchTo, RegisterFile.banked_setPc _ _ notPc, kept,
      below.1 k r atPlace notPc mode shares]
  · rw [RegisterFile.branchTo, RegisterFile.banked_setPc _ _ notPc, kept,
      below.2 mode r notPc notListed]
  · have last : k = low.length := by
      rw [split, List.getElem?_append] at atPlace
      split at atPlace
      · exact absurd (List.mem_of_getElem? atPlace) notPc
      · have bound := (List.getElem?_eq_some_iff.mp atPlace).1
        rw [List.length_singleton] at bound
        omega
    rw [place, Bus.read32_alignWord, last, RegisterFile.branchTo, RegisterFile.pc_setPc]
    rfl
  · exact absurd (by rw [split]; exact List.mem_append_right _ List.mem_cons_self) notListed
  · show (if t.restores then between.restoreStatus else between).cpsr = _
    split
    · rw [RegisterFile.restoreStatus, RegisterFile.spsr?, RegisterFile.spsr?, mode, saved]
      cases m.regs.savedStatus? m.regs.mode with
      | none => exact cpsr
      | some status =>
          show Status.withMode status _ = _
          rw [mode]
          rfl
    · exact cpsr
  · show (if t.restores then between.restoreStatus else between).savedStatus? mode = _
    split
    · rw [RegisterFile.savedStatus?_restoreStatus, saved]
    · exact saved mode

variable (t m)

/-- A load is the loads of its registers one after the other, after the base has been moved, so that
a base in the list ends with the loaded word. -/
theorem execute_load (load : t.load = true) :
    t.instruction.execute (m.advance .arm) =
      ⟨loadBlock t.restores (t.userBank && !t.restores) (transferSlots (t.start m) t.listed) m.bus
        (t.finish m (m.advance .arm).regs), m.bus⟩ := by
  have restores : t.restores = (t.userBank && t.listed.contains .pc) := by
    rw [BlockOperands.restores, load, Bool.true_and]
  show blockTransfer t.load t.userBank t.indexing t.rn t.registers (m.advance .arm) = _
  unfold blockTransfer
  rw [t.read_advance, t.block_eq]
  dsimp only
  rw [if_pos load, snd_transferSlots, ← restores]
  rfl

/-- A load leaves the machine as it is specified. The cases are a list without `r15` and one with
it, which restores the status if the S bit is set. -/
theorem loaded_execute (load : t.load = true) :
    t.Loaded m (t.instruction.execute (m.advance .arm)) := by
  have finished := t.finished_finish m
  rw [t.execute_load m load]
  generalize t.finish m (m.advance .arm).regs = start at finished ⊢
  have owner : loadOwner (t.userBank && !t.restores) start = t.owner m := by
    rw [loadOwner, RegisterFile.mode_of_cpsr_eq finished.cpsr]
    rfl
  have loads {low : List RegNum} (notPc : .pc ∉ low) (once : low.Nodup) :
      LoadedFrom (t.owner m) (transferSlots (t.start m) low) m.bus start
        (loadBlock t.restores (t.userBank && !t.restores) (transferSlots (t.start m) low) m.bus
          start) := by
    rw [← snd_transferSlots (t.start m) low] at notPc once
    rw [← owner]
    exact loadedFrom_loadBlock notPc once _ _ m.bus start
  by_cases member : .pc ∈ t.listed
  · obtain ⟨low, split, notPc⟩ := eq_concat_of_pc_mem t.pairwise_listed member
    have once : low.Nodup := (List.nodup_append.mp (split ▸ t.nodup_listed)).1
    rw [split, transferSlots_concat, loadBlock_concat_pc]
    exact loaded_with_pc split notPc finished (loads notPc once)
  · exact loaded_without_pc member finished (loads member t.nodup_listed)

/-! ## Stores -/

/-- The value that is stored for each register is the specified one. A base that is written back is
stored as it was if it comes first, and as it will be otherwise. -/
theorem blockStoreValue_eq (r : RegNum) :
    blockStoreValue t.userBank (if t.indexing.writeBack then some (t.finalBase m) else none) t.rn
      (t.listed.headD .pc) (m.advance .arm).regs r = t.storedValue m r := by
  unfold blockStoreValue storedValue
  by_cases atPc : r = .pc
  · subst atPc
    show (m.regs.setPc _).pc + 4 + 4 = m.regs.pc.alignWord + 12
    rw [RegisterFile.pc_setPc]
    simp only [BitVec.add_assoc]
    rfl
  · have value : (m.advance .arm).regs.get r = m.regs.get r := m.regs.get_set_of_ne atPc _
    have user : (m.advance .arm).regs.userRegister r = m.regs.banked .user r :=
      m.regs.banked_setPc _ atPc .user
    have lowest : r ≠ t.listed.headD .pc ↔ t.listed.head? ≠ some r := by
      cases t.listed with
      | nil => exact iff_of_true atPc nofun
      | cons first rest => exact not_congr (eq_comm.trans (Option.some_inj).symm)
    rw [if_neg atPc, if_neg atPc, value, user]
    by_cases writeBack : t.indexing.writeBack = true
    · simp only [writeBack, ↓reduceIte, true_and, lowest]
    · simp only [writeBack, Bool.false_eq_true, ↓reduceIte, false_and]

/-- A store leaves the machine as it is specified: each register in its word, with a base in the
list stored old or new by its position, and the base moved after it. -/
theorem stored_execute (store : t.load = false) :
    t.Stored m (t.instruction.execute (m.advance .arm)) := by
  have execute : t.instruction.execute (m.advance .arm) =
      ⟨t.finish m (m.advance .arm).regs, t.listed.zipIdx.foldl
        (fun bus slot => bus.write32 (t.place m slot.2) (t.storedValue m slot.1)) m.bus⟩ := by
    show blockTransfer t.load t.userBank t.indexing t.rn t.registers (m.advance .arm) = _
    unfold blockTransfer
    rw [t.read_advance, t.block_eq]
    dsimp only
    rw [if_neg (Bool.eq_false_iff.mp store), snd_transferSlots]
    simp only [t.blockStoreValue_eq m]
    refine congrArg (Machine.mk (t.finish m (m.advance .arm).regs)) ?_
    rw [transferSlots_eq_zipIdx, List.map_map, Machine.storeWords, List.foldl_map]
    simp only [place, Bus.write32_alignWord]
    rfl
  have finished := t.finished_finish m
  rw [execute]
  exact ⟨rfl, finished.registers, finished.pc, finished.cpsr, finished.saved⟩

/-- A block transfer means what its operands say, whatever the registers, the memory and the mode:
the registers it lists, from the lowest to the highest, are loaded from or stored to consecutive
words, and the base moves by their number of words. -/
theorem execute_meaning :
    t.listed.Pairwise (· < ·) ∧
      (∀ r, r ∈ t.listed ↔ t.registers = 0 ∧ r = .pc ∨ t.registers.getLsbD r.val = true) ∧
      if t.load then t.Loaded m (t.instruction.execute (m.advance .arm))
      else t.Stored m (t.instruction.execute (m.advance .arm)) := by
  refine ⟨t.pairwise_listed, fun _ => t.mem_listed, ?_⟩
  split
  · exact t.loaded_execute m ‹_›
  · exact t.stored_execute m (Bool.eq_false_iff.mpr ‹_›)

end BlockOperands

end Arm

end Handheld
