import Handheld.Proofs.Cpu.ExceptionReturn
import Handheld.Proofs.Cpu.Stack

/-!
# Exception frames

A handler that needs registers of the interrupted program saves them on the stack of its mode,
below the address it returns to, and returns with the one load that fetches them all, moves the
stack pointer back and restores the status. `ExceptionFrame.linkWord`, `ExceptionFrame.saveWord`
and `ExceptionFrame.leaveWord` are the instructions, and `ExceptionFrame.Handles` is what the
handler may do in between. `ExceptionFrame.Entered` holds before the store, and
`ExceptionFrame.Saved` from the store to the load (`ExceptionFrame.Entered.saved_store`,
`ExceptionFrame.Saved.handles`, `ExceptionFrame.Saved.restored`); so the interrupted program has
everything back, whatever the exception and the saved registers are
(`ExceptionFrame.frame_round_trip`).
-/

namespace Handheld

namespace Arm

/-- The words of the group of block transfers are block transfers, with all their fields. There is
no unallocated word in this group. -/
theorem decode_of_block {word : Word} (group : word.extractLsb' 25 3 = 0b100) :
    decode word =
      ⟨.ofBits (word.extractLsb' 28 4),
        .blockTransfer (word.getLsbD 20) (word.getLsbD 22) (Indexing.ofWord word)
          (registerAt word 16) (word.extractLsb' 0 16)⟩ := by
  have noExchange : ¬ word &&& 0x0FFFFFF0 = 0x012FFF10 := by
    intro exchange
    have top := congrArg (BitVec.extractLsb' 25 3) exchange
    rw [BitVec.extractLsb'_and, group] at top
    exact absurd top (by decide)
  rw [decode, decodeInstruction, if_neg noExchange, group]
  rfl

/-- The upper half of such a word says what is done, and the lower one lists the registers. So one
instruction for each list can be written down at once. -/
theorem decode_append {upper : Half} (group : upper.extractLsb' 9 3 = 0b100) (registers : Half) :
    decode (upper ++ registers) =
      ⟨.ofBits (upper.extractLsb' 12 4),
        .blockTransfer (upper.getLsbD 4) (upper.getLsbD 6)
          ⟨upper.getLsbD 8, upper.getLsbD 7, upper.getLsbD 5⟩ (upper.extractLsb' 0 4).toFin
          registers⟩ := by
  have field (start len : Nat) : (upper ++ registers).extractLsb' (16 + start) len =
      upper.extractLsb' start len := by
    rw [BitVec.extractLsb'_append_eq_of_le (Nat.le_add_right 16 start), Nat.add_sub_cancel_left]
  have bit (i : Nat) : (upper ++ registers).getLsbD (16 + i) = upper.getLsbD i := by
    rw [BitVec.getLsbD_append, if_neg (Nat.not_lt.mpr (Nat.le_add_right 16 i)),
      Nat.add_sub_cancel_left]
  refine (decode_of_block ((field 9 3).trans group)).trans ?_
  rw [Indexing.ofWord, registerAt, field 12 4, field 0 4, bit 4, bit 6, bit 8, bit 7, bit 5,
    BitVec.extractLsb'_append_eq_right]

end Arm

/-- Executing an ARM instruction, wherever it is in memory, makes one machine of another. -/
def Machine.Executes (before : Machine) (word : Word) (after : Machine) : Prop :=
  ∃ address, (before.mapRegs (·.setPc address)).fetchWord = word ∧
    (before.mapRegs (·.setPc address)).step.2 = after

/-- A word that decodes to an instruction without condition or trap is executed as that instruction,
at whatever address it stands. -/
theorem Machine.Executes.eq_execute {before after : Machine} {word : Word}
    (executes : before.Executes word after) (arm : before.regs.thumb = false)
    {instruction : Arm.Instruction} (decoded : Arm.decode word = ⟨.al, instruction⟩)
    (noTrap : instruction.trap? = none) :
    ∃ address, after = instruction.execute ((before.mapRegs (·.setPc address)).advance .arm) := by
  obtain ⟨address, rfl, rfl⟩ := executes
  refine ⟨address, ?_⟩
  rw [Machine.step_of_decode (m := before.mapRegs (·.setPc address)) arm decoded noTrap]

namespace ExceptionFrame

variable (kept : BitVec 13)

/-! ## The instructions -/

/-- The registers that are saved. Bit `i` stands for register `i`. -/
def keptRegisters : List RegNum := listedRegisters (kept.setWidth 16)

/-- The store of the registers and the link register. -/
def save : StackPair := .block true false .sp (kept.setWidth 16 ||| 0x4000)

/-- The load of the registers and `r15` that restores the status. -/
def leave : Arm.BlockOperands :=
  ⟨true, true, .incrementAfter, .sp, kept.setWidth 16 ||| 0x8000⟩

/-- `SUB lr, lr` by the link offset. -/
def linkWord (e : Exception) : Word := 0xE24EE000 ||| e.linkOffset

/-- `STMDB sp!` of the registers and `lr`. -/
def saveWord : Word := 0xE92D#16 ++ (kept.setWidth 16 ||| 0x4000#16)

/-- `LDMIA sp!` of the registers and `r15`, with the saved status restored. -/
def leaveWord : Word := 0xE8FD#16 ++ (kept.setWidth 16 ||| 0x8000#16)

/-- The first instruction of a handler corrects the link register by the offset that its exception
leaves there. -/
theorem decode_linkWord (e : Exception) :
    Arm.decode (linkWord e) =
      ⟨.al, .dataProcessing .sub false .lr .lr (.immediate e.linkOffset 0)⟩ := by
  cases e <;> decide

/-- The second instruction pushes the kept registers and the link register. -/
theorem decode_saveWord :
    Arm.decode (saveWord kept) = ⟨.al, (save kept).operands.instruction⟩ :=
  Arm.decode_append (by decide) _

/-- The last instruction pops them again, the link register into `r15`, and restores the status. -/
theorem decode_leaveWord : Arm.decode (leaveWord kept) = ⟨.al, (leave kept).instruction⟩ :=
  Arm.decode_append (by decide) _

variable {kept}

/-- A handler keeps general registers: neither the stack pointer nor the link register nor `r15`. -/
theorem lt_of_mem_keptRegisters {r : RegNum} (member : r ∈ keptRegisters kept) : r.val < 13 :=
  BitVec.lt_of_getLsbD (mem_listedRegisters_setWidth.mp member)

/-- None of the three highest registers is among those a handler keeps. -/
theorem notMem_keptRegisters {r : RegNum} (high : 13 ≤ r.val) : r ∉ keptRegisters kept :=
  fun member => Nat.not_lt.mpr high (lt_of_mem_keptRegisters member)

/-- The push takes the kept registers in order, and the link register after them. -/
theorem listed_save : (save kept).listed = keptRegisters kept ++ [.lr] :=
  listedRegisters_or_twoPow kept .lr (by decide)

theorem base_save : (save kept).base = .sp := rfl

/-- The push is an ordinary block transfer: its base is neither `r15` nor in its own list, and the
list is not empty. -/
theorem regular_save : (save kept).Regular where
  base := by rw [base_save]; decide
  nonempty := by
    rw [listed_save]
    exact List.concat_ne_nil _ _
  notBase := by
    rw [listed_save, base_save, List.mem_append, not_or]
    exact ⟨notMem_keptRegisters (by decide), by decide⟩
  notPc := by
    rw [listed_save, List.mem_append, not_or]
    exact ⟨notMem_keptRegisters (by decide), by decide⟩

/-- The list of the pop is never empty, since it always holds `r15`. -/
theorem registers_leave_ne_zero : (leave kept).registers ≠ 0 := by
  intro zero
  have listed : listedRegisters (leave kept).registers = keptRegisters kept ++ [.pc] :=
    listedRegisters_or_twoPow kept .pc (by decide)
  rw [zero] at listed
  exact List.concat_ne_nil _ _ listed.symm

/-- The pop takes the kept registers in order, and `r15` after them. -/
theorem listed_leave : (leave kept).listed = keptRegisters kept ++ [.pc] :=
  (if_neg registers_leave_ne_zero).trans (listedRegisters_or_twoPow kept .pc (by decide))

/-! ## The frame in memory -/

variable (kept) in
/-- The bytes of the frame. -/
def size : Word := BitVec.ofNat 32 (4 * ((keptRegisters kept).length + 1))

/-- The push makes room for the kept registers and one word more. -/
theorem span_save : (save kept).operands.span = size kept := by
  rw [Arm.BlockOperands.span, if_neg regular_save.registers_ne_zero, regular_save.listed_eq,
    listed_save, List.length_append, List.length_singleton, size]

/-- The pop takes as many words as the push has stored. -/
theorem span_leave : (leave kept).span = size kept := by
  rw [Arm.BlockOperands.span, if_neg registers_leave_ne_zero, listed_leave, List.length_append,
    List.length_singleton, size]

theorem base_operands_save (m : Machine) : (save kept).operands.base m = m.regs.get .sp :=
  Arm.BlockOperands.base_of_ne regular_save.base m

theorem base_leave (m : Machine) : (leave kept).base m = m.regs.get .sp :=
  Arm.BlockOperands.base_of_ne (by decide : RegNum.sp ≠ .pc) m

/-- The lowest word of the push lies its whole size below the stack pointer. -/
theorem start_save (m : Machine) :
    (save kept).operands.start m = m.regs.get .sp - size kept := by
  show (save kept).operands.base m - (save kept).operands.span = _
  rw [base_operands_save, span_save]

/-- After the push the stack pointer is at the lowest word it has stored. -/
theorem finalBase_save (m : Machine) :
    (save kept).operands.finalBase m = m.regs.get .sp - size kept := by
  show (save kept).operands.base m - (save kept).operands.span = _
  rw [base_operands_save, span_save]

theorem start_leave (m : Machine) : (leave kept).start m = m.regs.get .sp := base_leave m

/-- After the pop the stack pointer is above all words it has loaded. -/
theorem finalBase_leave (m : Machine) :
    (leave kept).finalBase m = m.regs.get .sp + size kept := by
  show (leave kept).base m + (leave kept).span = _
  rw [base_leave, span_leave]

/-- Where the return finds its words depends on the stack pointer alone. -/
theorem place_leave_congr {a b : Machine} (same : a.regs.get .sp = b.regs.get .sp) (k : Nat) :
    (leave kept).place a k = (leave kept).place b k := by
  rw [Arm.BlockOperands.place, Arm.BlockOperands.place, start_leave, start_leave, same]

/-- Whether the words of the push lie in work memory depends on the stack pointer alone. -/
theorem inWorkMemory_save_congr {a b : Machine} (same : a.regs.get .sp = b.regs.get .sp) :
    (save kept).InWorkMemory a ↔ (save kept).InWorkMemory b := by
  have place : (save kept).operands.place a = (save kept).operands.place b := by
    funext k
    rw [Arm.BlockOperands.place, Arm.BlockOperands.place, start_save, start_save, same]
  rw [StackPair.InWorkMemory, StackPair.InWorkMemory, StackPair.window, StackPair.window, place]

/-! ## Taking the exception -/

/-- An exception is taken and its link register made the address to return to. -/
def Enters (e : Exception) (before after : Machine) : Prop :=
  if e.linkOffset = 0 then after = before.mapRegs (·.enterException e)
  else (before.mapRegs (·.enterException e)).Executes (linkWord e) after

/-- A handler runs in ARM state in the mode that took the exception, which has the interrupted
status as its saved one. -/
structure Handling (e : Exception) (before after : RegisterFile) : Prop where
  mode : after.mode = e.targetMode
  arm : after.thumb = false
  status : ∀ mode, after.savedStatus? mode =
    if mode = e.targetMode then some before.cpsr else before.savedStatus? mode

/-- A handler starts with a return address in the link register of its mode. No other register has
changed but `r15`. -/
structure Entered (e : Exception) (before : RegisterFile) (link : Word) (after : RegisterFile) :
    Prop extends Handling e before after where
  registers : ∀ mode r, r ≠ .pc →
    after.banked mode r = if r = .lr ∧ mode = e.targetMode then link else before.banked mode r

variable {e : Exception} {before regs : RegisterFile} {link : Word} {m after : Machine}

/-- What the processor does when it takes an exception is what a handler can rely on at its first
instruction. -/
theorem entered_enterException (e : Exception) (regs : RegisterFile) :
    Entered e regs (regs.pc + e.linkOffset) (regs.enterException e) where
  mode := regs.mode_enterException e
  arm := regs.thumb_enterException e
  registers mode _ notPc := regs.banked_enterException e mode notPc
  status := regs.savedStatus?_enterException e

/-- A handler that writes a visible register is still handling its exception. -/
theorem Handling.set (handling : Handling e before regs) (r : RegNum) (value : Word) :
    Handling e before (regs.set r value) :=
  ⟨handling.mode, handling.arm, handling.status⟩

namespace Entered

/-- Fetching an instruction from anywhere changes nothing but `r15`. -/
theorem fetched (entered : Entered e before link m.regs) (address : Word) :
    Entered e before link ((m.mapRegs (·.setPc address)).advance .arm).regs where
  toHandling := (entered.toHandling.set .pc address).set .pc _
  registers mode r notPc :=
    (RegisterFile.banked_setPc _ _ notPc mode).trans
      ((m.regs.banked_setPc address notPc mode).trans (entered.registers mode r notPc))

/-- A handler may correct its link register. Everything else it was entered with is still there. -/
theorem setLink (entered : Entered e before link regs) (address : Word) :
    Entered e before address (regs.set .lr address) where
  toHandling := entered.toHandling.set .lr address
  registers mode r notPc := by
    rw [RegisterFile.banked_set, entered.mode, entered.registers mode r notPc]
    simp only [RegisterFile.sharedBy_lr, RegisterFile.bank_targetMode]
    split <;> rfl

theorem get_link (entered : Entered e before link regs) : regs.get .lr = link := by
  rw [← regs.banked_mode, entered.mode, entered.registers _ _ (by decide), if_pos ⟨rfl, rfl⟩]

/-- But for `r15` and the link register the handler finds the registers of its own mode as they were
before the exception. -/
theorem get_of_ne (entered : Entered e before link regs) {r : RegNum} (notPc : r ≠ .pc)
    (notLink : r ≠ .lr) : regs.get r = before.banked e.targetMode r := by
  rw [← regs.banked_mode, entered.mode, entered.registers _ r notPc,
    if_neg fun both => notLink both.1]

end Entered

/-- The first instruction takes the offset from the link register and does nothing else, so that the
link register says where to return to. -/
theorem execute_link (m : Machine) :
    (Arm.Instruction.dataProcessing .sub false .lr .lr (.immediate e.linkOffset 0)).execute m =
      m.mapRegs fun regs => regs.set .lr (regs.get .lr - e.linkOffset) := by
  have link : Arm.read m.regs .lr = m.regs.get .lr := m.regs.operand_of_ne (by decide) _
  refine congrArg (Machine.mk · m.bus)
    ((Arm.dataProcessing_keepFlags m.regs .sub rfl .lr (by decide) rfl).trans ?_)
  rw [link]
  exact congrArg (m.regs.set .lr) (Adder.value_sub _ _)

/-- One step that takes an exception leaves the handler what it is promised, with the address of the
next instruction as the link. -/
theorem Enters.entered (enters : Enters e m after) : Entered e m.regs m.regs.pc after.regs := by
  have atVector := entered_enterException e m.regs
  unfold Enters at enters
  split at enters
  · rename_i noOffset
    have whole : m.regs.pc + 0 = m.regs.pc := BitVec.add_zero _
    rw [noOffset, whole] at atVector
    rw [enters]
    exact atVector
  · obtain ⟨address, rfl⟩ := enters.eq_execute atVector.arm (decode_linkWord e) rfl
    have fetched := atVector.fetched (m := m.mapRegs (·.enterException e)) address
    rw [execute_link]
    generalize ((m.mapRegs (·.enterException e)).mapRegs (·.setPc address)).advance .arm = here
      at fetched ⊢
    have back : here.regs.get .lr - e.linkOffset = m.regs.pc := by
      rw [fetched.get_link]
      exact BitVec.add_sub_cancel _ _
    show Entered e m.regs m.regs.pc (here.regs.set .lr (here.regs.get .lr - e.linkOffset))
    rw [back]
    exact fetched.setLink m.regs.pc

/-! ## The frame on the stack -/

/-- The registers of the interrupted program are on the stack, and so is the address to return to:
a return would find each of them in its place, and move the stack pointer to where it was. Besides
the saved registers and the link register nothing is to be restored. -/
structure Saved (e : Exception) (kept : BitVec 13) (before : RegisterFile) (m : Machine) :
    Prop extends Handling e before m.regs where
  top : (leave kept).finalBase m = before.banked e.targetMode .sp
  words : ∀ k r, (keptRegisters kept)[k]? = some r →
    m.bus.read32 ((leave kept).place m k) = before.banked e.targetMode r
  link : m.bus.read32 ((leave kept).place m (keptRegisters kept).length) = before.pc
  others : ∀ mode r, r ≠ .pc → ¬ (r ∈ keptRegisters kept ∧ e.targetMode.Shares mode r) →
    ¬ (mode = e.targetMode ∧ (r = .sp ∨ r = .lr)) → m.regs.banked mode r = before.banked mode r

/-- The store puts the frame on the stack: each saved register in its word, the return address above
them, and the stack pointer below. The interrupted program keeps the rest. -/
theorem Entered.saved_store (entered : Entered e before before.pc m.regs)
    (work : (save kept).InWorkMemory m) : Saved e kept before ((save kept).store m) := by
  have pointer : m.regs.get .sp = before.banked e.targetMode .sp :=
    entered.get_of_ne (by decide) (by decide)
  rw [regular_save.store_eq m, base_save, finalBase_save]
  generalize stored : (m.storeWords ((save kept).writes m)).mapRegs
    (·.set .sp (m.regs.get .sp - size kept)) = after
  have bottom : after.regs.get .sp = m.regs.get .sp - size kept := by
    rw [← stored]
    exact m.regs.get_set_self .sp _
  have read (k : Nat) {r : RegNum} (atPlace : (keptRegisters kept ++ [.lr])[k]? = some r) :
      after.bus.read32 ((leave kept).place after k) = m.regs.get r := by
    rw [Arm.BlockOperands.place, Bus.read32_alignWord, start_leave, bottom, ← stored]
    have slot : (m.regs.get .sp - size kept + BitVec.ofNat 32 (4 * k), r) ∈
        (save kept).slots m := by
      apply List.mem_of_getElem? (i := k)
      rw [StackPair.slots, getElem?_transferSlots, listed_save, atPlace, start_save]
      rfl
    have written := StackPair.read32_writes work slot
    exact written
  -- Only the stack pointer moves in the registers, and `read` gives every word of the frame.
  refine ⟨?_, ?_, fun k r atPlace => ?_, ?_, fun mode r notPc notSaved notOwn => ?_⟩
  · rw [← stored]
    exact entered.toHandling.set .sp _
  · rw [finalBase_leave, bottom, pointer]
    exact BitVec.sub_add_cancel _ _
  · have low := lt_of_mem_keptRegisters (List.mem_of_getElem? atPlace)
    have bound := (List.getElem?_eq_some_iff.mp atPlace).1
    rw [read k ((List.getElem?_append_left bound).trans atPlace)]
    exact entered.get_of_ne (by rintro rfl; exact absurd low (by decide))
      (by rintro rfl; exact absurd low (by decide))
  · rw [read _ List.getElem?_concat_length, entered.get_link]
  · have kept : after.regs.banked mode r = m.regs.banked mode r := by
      rw [← stored]
      refine (m.regs.banked_set .sp _ mode r).trans (if_neg ?_)
      rw [entered.mode, RegisterFile.sharedBy_sp, RegisterFile.bank_targetMode]
      exact fun moved => notOwn ⟨moved.2, .inl moved.1⟩
    rw [kept, entered.registers mode r notPc, if_neg fun own => notOwn ⟨own.2, .inr own.1⟩]

/-- A handler changes the saved registers, `r15` and the condition flags in any way, and does not
change the frame. -/
structure Handles (kept : BitVec 13) (before after : Machine) : Prop where
  registers : ∃ between, before.regs.ChangedOnly (.pc :: keptRegisters kept) between ∧
    between.SameButFlags after.regs
  frame : ∀ k < (leave kept).listed.length,
    after.bus.read32 ((leave kept).place before k) = before.bus.read32 ((leave kept).place before k)

/-- Any values may go to the saved registers, and the flags may follow any result, as in a handler
that computes between the two transfers and stores nothing. -/
theorem Handles.overwrite (m : Machine) (values : RegNum → Word) (update : FlagsUpdate) :
    Handles kept m (m.mapRegs fun regs =>
      update.apply (StackPair.overwrite (keptRegisters kept) values regs)) where
  registers := ⟨_, (StackPair.changedOnly_overwrite _ values m.regs).mono
    fun _ member => List.mem_cons_of_mem _ member, RegisterFile.sameButFlags_apply update _⟩
  frame _ _ := rfl

/-- Where a handler goes on executing does not matter to what it has to keep. -/
theorem Handles.setPc (m : Machine) (address : Word) :
    Handles kept m (m.mapRegs (·.setPc address)) where
  registers := ⟨_, (RegisterFile.ChangedOnly.set m.regs .pc address).mono
    fun _ member => List.mem_cons.mpr (.inl (List.mem_singleton.mp member)), .refl _⟩
  frame _ _ := rfl

/-- What a handler has pushed stays saved as long as it keeps its stack: the frame is in memory, and
of the registers only saved ones have changed. -/
theorem Saved.handles (saved : Saved e kept before m) (handles : Handles kept m after) :
    Saved e kept before after := by
  obtain ⟨between, changes, flags⟩ := handles.registers
  have others (mode : Mode) (r : RegNum) (notPc : r ≠ .pc)
      (notSaved : ¬ (r ∈ keptRegisters kept ∧ e.targetMode.Shares mode r)) :
      after.regs.banked mode r = m.regs.banked mode r := by
    rw [flags.banked]
    by_cases listed : r ∈ keptRegisters kept
    · refine changes.banked_of_apart fun shared => notSaved ⟨listed, ?_⟩
      rw [saved.mode] at shared
      exact (RegisterFile.sharedBy_iff _ _ _).mp shared
    · exact changes.banked mode fun changed => (List.mem_cons.mp changed).elim notPc listed
  have pointer : after.regs.get .sp = m.regs.get .sp := by
    rw [flags.get, changes.kept]
    exact fun changed =>
      (List.mem_cons.mp changed).elim (by decide) (notMem_keptRegisters (by decide))
  have count : (leave kept).listed.length = (keptRegisters kept).length + 1 := by
    rw [listed_leave, List.length_append, List.length_singleton]
  refine ⟨⟨?_, ?_, fun mode => ?_⟩, ?_, fun k r atPlace => ?_, ?_,
    fun mode r notPc notSaved notOwn => ?_⟩
  · rw [flags.mode, changes.mode, saved.mode]
  · rw [flags.thumb, changes.thumb, saved.arm]
  · rw [flags.savedStatus?, changes.savedStatus?, saved.status]
  · rw [finalBase_leave, pointer, ← finalBase_leave, saved.top]
  · have bound := (List.getElem?_eq_some_iff.mp atPlace).1
    rw [place_leave_congr pointer, handles.frame k (by omega), saved.words k r atPlace]
  · rw [place_leave_congr pointer, handles.frame _ (by omega), saved.link]
  · rw [others mode r notPc notSaved, saved.others mode r notPc notSaved notOwn]

/-- A register that the load does not fetch is what it was in the interrupted program, and the stack
pointer is after the load has moved it. -/
theorem Saved.moved_leave (saved : Saved e kept before m) {mode : Mode} {r : RegNum}
    (notPc : r ≠ .pc) (notSaved : ¬ (r ∈ keptRegisters kept ∧ e.targetMode.Shares mode r))
    (notLink : ¬ (mode = e.targetMode ∧ r = .lr)) :
    (leave kept).moved m mode r = before.banked mode r := by
  have own : m.regs.mode.Shares mode .sp ↔ mode = e.targetMode := by
    rw [saved.mode, ← RegisterFile.sharedBy_iff, RegisterFile.sharedBy_sp,
      RegisterFile.bank_targetMode]
  rw [Arm.BlockOperands.moved]
  by_cases pointer : mode = e.targetMode ∧ r = .sp
  · obtain ⟨rfl, rfl⟩ := pointer
    rw [if_pos ⟨rfl, rfl, own.mpr rfl⟩, saved.top]
  · rw [if_neg]
    · refine saved.others mode r notPc notSaved fun ofTarget => ?_
      rcases ofTarget.2 with isPointer | isLink
      · exact pointer ⟨ofTarget.1, isPointer⟩
      · exact notLink ⟨ofTarget.1, isLink⟩
    · rintro ⟨-, isPointer, shares⟩
      subst isPointer
      exact pointer ⟨own.mp shares, rfl⟩

/-- The load of the frame gives the interrupted program everything back: the saved registers from
memory, the status from the saved status, and `r15` from the return address. -/
theorem Saved.restored (saved : Saved e kept before m) (wellFormed : before.WellFormed) :
    RegisterFile.Restored e before ((leave kept).instruction.execute (m.advance .arm)).regs := by
  have loads := (leave kept).loaded_execute m rfl
  generalize (leave kept).instruction.execute (m.advance .arm) = returned at loads ⊢
  have restores : (leave kept).restores = true := by
    rw [Arm.BlockOperands.restores, listed_leave, List.contains_eq_mem,
      decide_eq_true (List.mem_append_right _ (List.mem_singleton_self _))]
    rfl
  -- With `r15` in the list the S bit restores the status, and the registers go to the mode of the
  -- exception and not to user mode.
  have owner : (leave kept).owner m = e.targetMode := by
    rw [Arm.BlockOperands.owner, restores, Bool.not_true, Bool.and_false,
      if_neg Bool.false_ne_true, saved.mode]
  have status : returned.regs.cpsr = before.cpsr := by
    have own : m.regs.spsr? = some before.cpsr := by
      rw [RegisterFile.spsr?, saved.status, saved.mode, if_pos rfl]
    have named := wellFormed.namesMode
    unfold RegisterFile.NamesMode at named
    rw [loads.cpsr, if_pos restores, own, Option.map_some, Option.getD_some, named,
      Option.getD_some, Status.withMode_eq_self named]
  have pc : returned.regs.pc = before.pc := by
    have last : (leave kept).listed[(keptRegisters kept).length]? = some .pc := by
      rw [listed_leave, List.getElem?_concat_length]
    have set : returned.regs.thumb = before.thumb := by
      rw [RegisterFile.thumb, RegisterFile.flag, status]
      rfl
    rw [loads.pcLoaded _ last, saved.link, RegisterFile.instructionSet_congr set,
      wellFormed.aligned]
  refine ⟨status, pc, fun mode r other => ?_,
    fun mode => (loads.saved mode).trans (saved.status mode)⟩
  · by_cases isPc : r = .pc
    · rw [isPc, RegisterFile.banked_pc, RegisterFile.banked_pc, pc]
    by_cases listed : r ∈ keptRegisters kept ∧ e.targetMode.Shares mode r
    · obtain ⟨k, atPlace⟩ := List.mem_iff_getElem?.mp listed.1
      have bound := (List.getElem?_eq_some_iff.mp atPlace).1
      have inFrame : (leave kept).listed[k]? = some r := by
        rw [listed_leave, List.getElem?_append_left bound, atPlace]
      have shared := (RegisterFile.sharedBy_iff _ _ _).mpr listed.2
      rw [loads.loaded k r inFrame isPc mode (by rw [owner]; exact listed.2),
        saved.words k r atPlace, before.banked_congr shared]
    · have notLoaded : ¬ (r ∈ (leave kept).listed ∧ ((leave kept).owner m).Shares mode r) := by
        rw [owner, listed_leave, List.mem_append, List.mem_singleton]
        exact fun both => both.1.elim (fun low => listed ⟨low, both.2⟩) isPc
      rw [loads.others mode r isPc notLoaded, saved.moved_leave isPc listed other]

/-- A handler that saves any of the registers `r0` to `r12` together with its return address,
changes them and the condition flags as it likes, and returns with the load of the frame gives the
interrupted program everything back: `r15`, the status with its instruction set, and every register
of every mode but the link register of the mode that took the exception. This holds of every
exception, from every mode and instruction set, wherever the handler and its stack are. -/
theorem frame_round_trip {linked saved handled returned : Machine} (e : Exception)
    (kept : BitVec 13) (wellFormed : m.regs.WellFormed) (enters : Enters e m linked)
    (saves : linked.Executes (saveWord kept) saved) (work : (save kept).InWorkMemory linked)
    (handles : Handles kept saved handled) (leaves : handled.Executes (leaveWord kept) returned) :
    RegisterFile.Restored e m.regs returned.regs := by
  have entered := enters.entered
  obtain ⟨address, rfl⟩ := saves.eq_execute entered.arm (decode_saveWord kept) rfl
  have fetched := entered.fetched address
  have pointer := (fetched.get_of_ne (by decide : RegNum.sp ≠ .pc) (by decide)).trans
    (entered.get_of_ne (by decide) (by decide)).symm
  have inFrame := (fetched.saved_store ((inWorkMemory_save_congr pointer).mpr work)).handles handles
  obtain ⟨address, rfl⟩ := leaves.eq_execute inFrame.arm (decode_leaveWord kept) rfl
  exact (inFrame.handles (.setPc handled address)).restored wellFormed

/-- A fast interrupt of a Thumb program of User mode. The handler is in the game pak, saves `r0` and
the private `r8` to `r12`, and overwrites them and the flags before it returns. -/
theorem fiq_frame_round_trip :
    let image := #[0x04, 0xE0, 0x4E, 0xE2, 0x01, 0x5F, 0x2D, 0xE9, 0x01, 0x9F, 0xFD, 0xE8]
    let program := { RegisterFile.powerOn.setPc 0x08000102 with
      stackLinks := RegisterFile.powerOn.stackLinks.set 1 ⟨0x03007E00, 0⟩
      cpsr := 0x30 }
    let m : Machine := ⟨program, { Bus.powerOn with gamePak := image }⟩
    let linked := ((m.mapRegs (·.enterException .fiq)).mapRegs (·.setPc 0x08000000)).step.2
    let saved := (linked.mapRegs (·.setPc 0x08000004)).step.2
    let handled := saved.mapRegs fun regs => FlagsUpdate.apply (.result 0)
      (StackPair.overwrite (keptRegisters 0x1F01) (fun _ => 0xDEADBEEF) regs)
    let returned := (handled.mapRegs (·.setPc 0x08000008)).step.2
    RegisterFile.Restored .fiq program returned.regs := by
  intro image program m linked saved handled returned
  have wellFormed : program.WellFormed := ⟨by decide, by decide⟩
  have enters : Enters .fiq m linked := ⟨0x08000000, by decide, rfl⟩
  have saves : linked.Executes (saveWord 0x1F01) saved := ⟨0x08000004, by decide, rfl⟩
  have work : (save 0x1F01).InWorkMemory linked := by decide
  have handles : Handles 0x1F01 saved handled := .overwrite saved (fun _ => 0xDEADBEEF) (.result 0)
  have leaves : handled.Executes (leaveWord 0x1F01) returned := ⟨0x08000008, by decide, rfl⟩
  exact frame_round_trip .fiq 0x1F01 wellFormed enters saves work handles leaves

end ExceptionFrame

end Handheld
