import Handheld.Proofs.Console.InterruptRoutine
import Handheld.Proofs.Console.ReadOnlyMemory

/-!
# Interrupts are transparent

An interrupt calls the handler six ticks after it is taken (`Console.handler_called`). Whatever the
handler does, as long as it hands back what the calling convention asks it to keep, two ticks later
the interrupted program goes on as if nothing had happened (`Console.interrupt_transparent`).
-/

namespace Handheld.Console

open RegisterFile

/-! ## The call of the handler -/

/-- A console whose program is about to be interrupted, with room on the stack of interrupts. -/
structure Interruptible (console : Console) : Prop where
  notServing : console.regs.mode ≠ .irq
  unmasked : console.regs.flag Status.irqMask = false
  pending : console.io.pendingInterrupts ≠ 0
  enabled : console.io.masterEnable = true
  passes : console.debugger.Passes [0x18, 0x20, 0x24, 0x28, 0x2C]
  stack : BootRom.StackInWorkMemory (console.regs.banked .irq .sp)

/-- Once the registers are saved, three ticks lead to the handler. They change `r0` and the link
register, and no memory. -/
theorem handler_called_of_saved {saved : Console} (serving : saved.Serving 0x24)
    (passes : saved.debugger.Passes [0x28, 0x2C]) :
    let entered := saved.tick.tick.tick
    Served [.pc, 0, .lr] (saved.bus.read32 0x03FFFFFC).alignWord saved entered ∧
      entered.regs.get .lr = 0x30 := by
  intro entered
  obtain ⟨loadBase, base⟩ := serving.loadBase passes.notStopped
  have passes := loadBase.passes _ passes
  obtain ⟨link, linkValue⟩ := loadBase.serving.link passes.notStopped
  have passes := link.passes _ passes
  have linkedBase : saved.tick.tick.regs.get 0 = 0x04000000 := by
    rw [link.changes.kept _ (by decide), base]
  have call := link.serving.call passes.notStopped linkedBase
  have linked := loadBase.toServed.trans link.toServed
  rw [linked.words _ (by decide)] at call
  refine ⟨(linked.trans call.toServed).mono (by decide), ?_⟩
  rw [call.changes.kept _ (by decide), linkValue]

/-- The handler is called with the registers as the interrupt leaves them, but for `r0`, the stack
pointer and the link register, and finds six of them on the stack. -/
theorem handler_called {console : Console} (consistent : console.Consistent)
    (boot : console.bus.bios = BootRom.image) (interruptible : console.Interruptible) :
    let entered := console.tickMultiple 6
    let taken := console.regs.enterException .irq
    let top := console.regs.banked .irq .sp
    entered.Serving (console.bus.read32 0x03FFFFFC).alignWord ∧
      taken.ChangedOnly [.pc, .sp, 0, .lr] entered.regs ∧
      entered.regs.get .sp = top - 24 ∧ entered.regs.get .lr = 0x30 ∧
      ∀ slot ∈ BootRom.savedSlots top, entered.bus.read32 slot.1 = taken.get slot.2 := by
  intro entered taken top
  let started := console.tick.tick
  let saved := started.tick
  have inRow : entered = saved.tick.tick.tick := by
    simp only [entered, tickMultiple_succ]
    rfl
  have passes := interruptible.passes
  -- Six ticks: the entry, the branch of the vector, the store of the frame, and three to load the
  -- address of the handler, to link and to jump. Each hands `Serving` at the next address on.
  obtain ⟨ticked, serving⟩ := serving_of_interrupt boot passes.notStopped interruptible.pending
    interruptible.enabled interruptible.unmasked consistent.noHaltRequest
  have takenRegs : console.tick.regs = taken := ticked.regs
  have passes : console.tick.debugger.Passes [0x20, 0x24, 0x28, 0x2C] :=
    ticked.passes (thumb_enterException console.regs .irq)
      (pc_enterException console.regs .irq) passes
  have branch : Moved [.pc, .pc] 0x20 console.tick started := serving.branch passes.notStopped
  have passes := branch.passes _ passes
  have startedTop : started.regs.get .sp = top := by
    rw [branch.changes.kept _ (by decide), takenRegs, ← banked_mode, mode_enterException]
    exact banked_enterException console.regs .irq .irq (by decide)
  have stack : BootRom.StackInWorkMemory (started.regs.get .sp) := by
    rw [startedTop]
    exact interruptible.stack
  obtain ⟨serving, savedRegs, saveChanges, stored, handlerKept, savePasses⟩ :=
    branch.serving.save passes.notStopped stack
  rw [← savedRegs] at saveChanges
  rw [startedTop] at stored
  obtain ⟨⟨called, callChanges, words⟩, link⟩ :=
    handler_called_of_saved serving (savePasses _ passes)
  have handler : saved.bus.read32 0x03FFFFFC = console.bus.read32 0x03FFFFFC := by
    rw [handlerKept, branch.words _ (by decide), ticked.read32 (by decide)]
    rfl
  rw [handler, ← inRow] at called
  rw [← inRow] at callChanges link words
  refine ⟨called, ?_, ?_, link, ?_⟩
  · have whole := (branch.changes.trans saveChanges).trans callChanges
    rw [takenRegs] at whole
    exact whole.mono (by decide)
  · rw [callChanges.kept _ (by decide), savedRegs, get_set_self, startedTop]
  · intro slot member
    have notPc : slot.2 ∉ [RegNum.pc, RegNum.pc] := by
      simpa using BootRom.ne_pc_of_savedSlots member
    rw [words _ (interruptible.stack.below_io slot member), stored slot member,
      branch.changes.kept _ notPc, takenRegs]

/-! ## The return to the program -/

/-- The handler is about to return from `returning`, having left what it was entered with in
`entered`: `r4` to `r11`, the stack and the saved status of interrupts, and the registers that only
the interrupted mode has. -/
structure HandedBack (interrupted : Mode) (entered returning : Console) : Prop where
  pc : returning.regs.pc = 0x30
  arm : returning.regs.thumb = false
  irq : returning.regs.mode = .irq
  masked : returning.regs.flag Status.irqMask = true
  running : returning.runState = .running
  passes : returning.debugger.Passes [0x34]
  kept : ∀ r : RegNum, 4 ≤ r.val → r.val ≤ 11 → returning.regs.get r = entered.regs.get r
  stackPointer : returning.regs.get .sp = entered.regs.get .sp
  savedStatus : returning.regs.savedStatus? .irq = entered.regs.savedStatus? .irq
  stack : ∀ k < 6, returning.bus.read32 (entered.regs.get .sp + BitVec.ofNat 32 (4 * k)) =
    entered.bus.read32 (entered.regs.get .sp + BitVec.ofNat 32 (4 * k))
  ownRegisters : ∀ r : RegNum, r = .sp ∨ r = .lr ∨ (interrupted = .fiq ∧ 8 ≤ r.val ∧ r.val ≤ 12) →
    returning.regs.banked interrupted r = entered.regs.banked interrupted r

/-- A handler that changes none but the lowest registers, which the routine has saved, and no word
of memory hands everything back. -/
theorem handedBack_of_served {changed : List RegNum} {entered returning : Console}
    (served : Served changed 0x30 entered returning)
    (passes : returning.debugger.Passes [0x34]) (saved : ∀ r ∈ changed, r = .pc ∨ r.val ≤ 3)
    (inMemory : ∀ k < 6,
      (entered.regs.get .sp + BitVec.ofNat 32 (4 * k)).toNat < 0x4000000)
    (interrupted : Mode) : HandedBack interrupted entered returning := by
  have untouched {r : RegNum} (banked : 4 ≤ r.val ∧ r ≠ .pc) : r ∉ changed := by
    intro member
    rcases saved r member with pc | low
    · exact banked.2 pc
    · omega
  obtain ⟨serving, changes, words⟩ := served
  refine ⟨serving.pc, serving.arm, serving.irq, serving.masked, serving.running, passes, ?_, ?_,
    changes.savedStatus? .irq, fun k bound => words _ (inMemory k bound), ?_⟩
  · intro r first last
    refine changes.kept r (untouched ⟨first, ?_⟩)
    rintro rfl
    exact absurd last (by decide)
  · exact changes.kept .sp (untouched (by decide))
  · intro r own
    refine changes.banked interrupted (untouched ?_)
    rcases own with rfl | rfl | ⟨-, first, last⟩
    · decide
    · decide
    · refine ⟨Nat.le_trans (by decide) first, ?_⟩
      rintro rfl
      exact absurd last (by decide)

/-- The registers that a mode does not share with IRQ mode. -/
theorem own_of_apart {mode : Mode} {r : RegNum} (apart : ¬ sharedBy .irq mode r = true) :
    r = .sp ∨ r = .lr ∨ (mode = .fiq ∧ 8 ≤ r.val ∧ r.val ≤ 12) := by
  revert r
  cases mode <;> decide

/-- Of the registers that interrupt mode shares with another, those that are not banked anywhere but
for fast interrupts come before `r13`. -/
theorem common_of_shared {mode : Mode} (notIrq : mode ≠ .irq) {r : RegNum}
    (shared : sharedBy .irq mode r = true) (notPc : r ≠ .pc) : r.val ≤ 12 := by
  revert r
  cases mode <;> first | exact absurd rfl notIrq | decide

/-- The registers that the routine does not save are those the handler keeps. -/
theorem saved_or_kept {r : RegNum} (common : r.val ≤ 12 ∨ r = .lr) :
    r ∈ ([0, 1, 2, 3, 12, .lr] : List RegNum) ∨ (4 ≤ r.val ∧ r.val ≤ 11) := by
  revert r
  decide

/-- The handler returns to the interrupted program: two ticks later it goes on at `target`, with the
status that was saved and the registers its own mode has then. -/
theorem program_resumed {returning : Console} (serving : returning.Serving 0x30)
    (passes : returning.debugger.Passes [0x34]) {top status : Word}
    (below : returning.regs.get .sp = top - 24)
    (saved : returning.regs.savedStatus? .irq = some status) {mode : Mode}
    (named : Mode.ofBits? (Status.modeField status) = some mode) :
    let resumed := returning.tickMultiple 2
    let restored := returning.tick
    resumed.runState = .running ∧ resumed.regs.cpsr = status ∧
      resumed.regs.pc = resumed.regs.instructionSet.align (restored.regs.get .lr - 4) ∧
      (∀ r, r ≠ .pc → resumed.regs.get r = restored.regs.banked mode r) ∧
      returning.regs.ChangedOnly [.pc, .sp, 0, 1, 2, 3, 12, .lr] restored.regs ∧
      ∀ slot ∈ BootRom.savedSlots top,
        restored.regs.get slot.2 = returning.bus.read32 slot.1 := by
  intro resumed restored
  have inRow : resumed = restored.tick := by
    simp only [resumed, tickMultiple_succ]
    rfl
  obtain ⟨restore, loaded⟩ := serving.restore passes.notStopped below
  have passes := restore.passes _ passes
  have stillSaved : restored.regs.savedStatus? .irq = some status :=
    (restore.changes.savedStatus? .irq).trans saved
  obtain ⟨running, regs⟩ := restore.serving.resume passes.notStopped stillSaved
  rw [← inRow] at running regs
  have current : ((restored.regs.setPc 0x38).setCpsr status).mode = mode := by
    rw [mode_setCpsr, named, Option.getD_some]
  have whole : ((restored.regs.setPc 0x38).setCpsr status).cpsr = status :=
    cpsr_setCpsr _ named
  refine ⟨running, ?_, ?_, ?_, restore.changes, loaded⟩
  · rw [regs]
    exact whole
  · rw [regs, branchTo, pc_setPc]
    rfl
  · intro r notPc
    rw [regs, branchTo, setPc, get_set_of_ne _ notPc, get_setCpsr, current]
    exact banked_setPc _ _ notPc mode

/-- The interrupted program has all its registers back. Each of them was saved by the routine, kept
by the handler, or belongs to the mode of interrupts alone. -/
theorem registers_restored {console entered returning restored : Console}
    (notServing : console.regs.mode ≠ .irq)
    (called : (console.regs.enterException .irq).ChangedOnly [.pc, .sp, 0, .lr] entered.regs)
    (back : HandedBack console.regs.mode entered returning)
    (changes : returning.regs.ChangedOnly [.pc, .sp, 0, 1, 2, 3, 12, .lr] restored.regs)
    (loaded : ∀ r ∈ ([0, 1, 2, 3, 12, .lr] : List RegNum),
      restored.regs.get r = (console.regs.enterException .irq).get r) :
    restored.regs.get .lr = console.regs.pc + 4 ∧
      ∀ r, r ≠ .pc → restored.regs.banked console.regs.mode r = console.regs.get r := by
  have irq : (console.regs.enterException .irq).mode = .irq := mode_enterException console.regs .irq
  have taken (mode : Mode) {r : RegNum} (notPc : r ≠ .pc) :=
    banked_enterException console.regs .irq mode notPc
  have visible {r : RegNum} (common : r.val ≤ 12 ∨ r = .lr) :
      restored.regs.get r = (console.regs.enterException .irq).get r := by
    rcases saved_or_kept common with saved | kept
    · exact loaded r saved
    · have notRestored : r ∉ [RegNum.pc, .sp, 0, 1, 2, 3, 12, .lr] := by
        revert r
        decide
      have notChanged : r ∉ [RegNum.pc, .sp, 0, .lr] := by
        revert r
        decide
      rw [changes.kept r notRestored, back.kept r kept.1 kept.2, called.kept r notChanged]
  constructor
  · rw [visible (.inr rfl), ← banked_mode, irq, taken .irq (by decide), if_pos ⟨rfl, rfl⟩]
    rfl
  · intro r notPc
    -- A register that both modes share was saved by the routine or kept by the handler; one of the
    -- interrupted mode alone is out of the routine's reach.
    by_cases shared : sharedBy .irq console.regs.mode r = true
    · have common := common_of_shared notServing shared notPc
      have sharedNow : sharedBy restored.regs.mode console.regs.mode r = true := by
        rw [changes.mode, back.irq, shared]
      have notLr : ¬ (r = .lr ∧ Mode.irq = Exception.irq.targetMode) := by
        rintro ⟨rfl, _⟩
        exact absurd common (by decide)
      rw [banked_of_shared _ sharedNow, visible (.inl common), ← banked_mode, irq,
        taken .irq notPc, if_neg notLr, banked_congr _ shared, banked_mode]
    · have apartNow : ¬ sharedBy returning.regs.mode console.regs.mode r = true := by
        rw [back.irq]
        exact shared
      have apartThen : ¬ sharedBy (console.regs.enterException .irq).mode console.regs.mode r =
          true := by
        rw [irq]
        exact shared
      have notOwn : ¬ (r = .lr ∧ console.regs.mode = Exception.irq.targetMode) :=
        fun both => notServing both.2
      rw [changes.banked_of_apart apartNow, back.ownRegisters r (own_of_apart shared),
        called.banked_of_apart apartThen, taken _ notPc, if_neg notOwn, banked_mode]

/-- An interrupt calls its handler after six ticks, and the handler finds `r1` to `r12` of every
mode as they were. If the handler hands back what it was entered with, the interrupted program goes
on two ticks after it returns where it was interrupted, with the same status and the same registers.
What is done to the console in the meantime does not matter. -/
theorem interrupt_transparent {console : Console} (reachable : console.Reachable)
    (interruptible : console.Interruptible) :
    let entered := console.tickMultiple 6
    (entered.regs.pc = (console.bus.read32 0x03FFFFFC).alignWord ∧
      entered.regs.thumb = false ∧ entered.regs.mode = .irq ∧
      entered.regs.flag Status.irqMask = true ∧ entered.regs.get .lr = 0x30 ∧
      ∀ mode (r : RegNum), 1 ≤ r.val → r.val ≤ 12 →
        entered.regs.banked mode r = console.regs.banked mode r) ∧
    ∀ handler : List Operation,
      HandedBack console.regs.mode entered (entered.run handler) →
        let resumed := (entered.run handler).tickMultiple 2
        resumed.runState = .running ∧ resumed.regs.pc = console.regs.pc ∧
          resumed.regs.cpsr = console.regs.cpsr ∧
          ∀ r, r ≠ .pc → resumed.regs.get r = console.regs.get r := by
  intro entered
  have consistent := consistent_reachable reachable
  obtain ⟨serving, called, stackPointer, link, saved⟩ :=
    handler_called consistent (bios_reachable reachable) interruptible
  refine ⟨⟨serving.pc, serving.arm, serving.irq, serving.masked, link, ?_⟩, ?_⟩
  · intro mode r first last
    have notChanged : r ∉ [RegNum.pc, .sp, 0, .lr] := by
      revert r
      decide
    have notPc : r ≠ .pc := by
      rintro rfl
      exact absurd last (by decide)
    have notLr : ¬ (r = .lr ∧ mode = Exception.irq.targetMode) := by
      rintro ⟨rfl, _⟩
      exact absurd last (by decide)
    rw [called.banked mode notChanged, banked_enterException console.regs .irq mode notPc,
      if_neg notLr]
  · intro handler back resumed
    -- The handler may be any operations, but the console they lead to is reachable, so the boot ROM
    -- is still there to return through.
    have returningReachable : (entered.run handler).Reachable :=
      (reachable.apply (.tickMultiple 6)).run handler
    have returningServing : (entered.run handler).Serving 0x30 :=
      ⟨bios_reachable returningReachable, back.pc, back.arm, back.irq, back.masked, back.running,
        (consistent_reachable returningReachable).noHaltRequest⟩
    have savedStatus : (entered.run handler).regs.savedStatus? .irq = some console.regs.cpsr := by
      rw [back.savedStatus, called.savedStatus?, savedStatus?_enterException]
      exact if_pos rfl
    obtain ⟨running, status, pc, registers, changes, loaded⟩ := program_resumed returningServing
      back.passes (back.stackPointer.trans stackPointer) savedStatus
      consistent.wellFormed.namesMode
    have unstacked : ∀ r ∈ ([0, 1, 2, 3, 12, .lr] : List RegNum),
        (entered.run handler).tick.regs.get r = (console.regs.enterException .irq).get r := by
      intro r member
      rw [← BootRom.savedSlots_registers (console.regs.banked .irq .sp)] at member
      obtain ⟨slot, present, rfl⟩ := List.mem_map.mp member
      obtain ⟨k, bound, rfl⟩ := List.mem_iff_getElem.mp present
      have kept := back.stack k bound
      rw [stackPointer] at kept
      rw [loaded _ present, ← saved _ present, BootRom.getElem_savedSlots _ bound]
      exact kept
    obtain ⟨returnLink, restored⟩ := registers_restored interruptible.notServing called back changes
      unstacked
    have sameSet : resumed.regs.instructionSet = console.regs.instructionSet := by
      have sameThumb : resumed.regs.thumb = console.regs.thumb := by
        rw [RegisterFile.thumb, flag, status]
        rfl
      exact instructionSet_congr sameThumb
    refine ⟨running, ?_, status, ?_⟩
    · rw [pc, returnLink, sameSet, BitVec.add_sub_cancel]
      exact consistent.wellFormed.aligned
    · intro r notPc
      rw [registers r notPc, restored r notPc]

/-- The instruction `str r1, [r0, #-4]` stores the address of a handler if `r0` is the address of
the peripheral registers. -/
theorem handler_stored {console : Console} (awake : console.isStopped = false)
    (running : console.runState = .running) (untaken : takesInterrupt console.machine = false)
    (arm : console.regs.thumb = false) (noHaltRequest : console.io.haltRequested = false)
    (fetched : console.machine.fetchWord = 0xE5001004)
    (base : console.regs.get 0 = 0x04000000) :
    console.tick.bus.read32 0x03FFFFFC = console.regs.get 1 := by
  let machine := console.machine.advance .arm
  let store : Arm.Instruction :=
    .singleTransfer false false ⟨true, false, false⟩ 0 1 (.immediate 4)
  have effect : store.execute machine = machine.storeWord 0x03FFFFFC (console.regs.get 1) := by
    have start : Arm.read machine.regs 0 = 0x04000000 :=
      (operand_of_ne _ (by decide) _).trans ((get_set_of_ne _ (by decide) _).trans base)
    have value : Arm.readLate machine.regs 1 = console.regs.get 1 :=
      (lateOperand_of_ne _ (by decide) _).trans (get_set_of_ne _ (by decide) _)
    change (machine.storeWord (Arm.read machine.regs 0 - 4) (Arm.readLate machine.regs 1)).mapRegs
      _ = _
    rw [start, value]
    rfl
  have work : Bus.workCell? (0x03FFFFFC : Word).alignWord = some 0x47FFC := by decide
  have io : (store.execute machine).bus.io = console.io := by
    rw [effect]
    exact Bus.io_write32 _ work _
  have decoded : Arm.decode console.machine.fetchWord = ⟨.al, store⟩ := by
    rw [fetched]
    decide
  have ticked := ticked_instruction awake running untaken arm decoded rfl
    (by rw [io, noHaltRequest])
  rw [effect] at ticked
  rw [ticked.read32 (by decide)]
  exact (Bus.read32_write32 _ work _ _).trans (if_pos work)

/-- A key event changes nothing that a program in memory consists of, nor the pointer to its
handler. -/
theorem read32_setKey (console : Console) (key : Key) (pressed : Bool) {address : Word}
    (below : address.toNat < 0x4000000) :
    (console.setKey key pressed).bus.read32 address = console.bus.read32 address :=
  Bus.read32_withIo console.bus _ below

theorem gamePak_setKey (console : Console) (key : Key) (pressed : Bool) :
    (console.setKey key pressed).bus.gamePak = console.bus.gamePak := rfl

theorem debugger_setKey (console : Console) (key : Key) (pressed : Bool) :
    (console.setKey key pressed).debugger = console.debugger := rfl

/-- Sets interrupts up for a key, stores the address of a handler, and waits. The handler follows:
it acknowledges the request and returns. -/
def keypadProgram : List Word :=
  [0xE3A00301, 0xE2802C02, 0xE3A03A01, 0xE3A05001, 0xE8820038, 0xE2803E13, 0xE3A04101, 0xE3844801,
    0xE5834000, 0xE3A01302, 0xE2811034, 0xE5001004, 0xEAFFFFFE,
    0xE3A01301, 0xE2811C02, 0xE3A02A01, 0xE1C120B2, 0xE1A0F00E]

def keypadStarted : Console :=
  (powerOn .default).run [.loadRom (keypadProgram.flatMap Word.bytes).toArray, .skipBios]

/-- The program is about to store the address of its handler. -/
def keypadReady : Console := keypadStarted.tickMultiple 11

/-- The program waits, and the key is down. -/
def keypadPressed : Console := keypadReady.tick.setKey .a true

/-- The handler's address is where the routine looks for it. The stack and the address lie deep in
work memory, so they are followed by lemmas on memory, and only registers are computed. -/
theorem handler_keypadPressed : keypadPressed.bus.read32 0x03FFFFFC = 0x08000034 := by
  obtain ⟨awake, running, untaken, arm, noHaltRequest, fetched, base, value⟩ :
      keypadReady.isStopped = false ∧ keypadReady.runState = .running ∧
        takesInterrupt keypadReady.machine = false ∧ keypadReady.regs.thumb = false ∧
        keypadReady.io.haltRequested = false ∧ keypadReady.machine.fetchWord = 0xE5001004 ∧
        keypadReady.regs.get 0 = 0x04000000 ∧ keypadReady.regs.get 1 = 0x08000034 := by
    decide +kernel
  have stored := handler_stored awake running untaken arm noHaltRequest fetched base
  have kept : keypadPressed.bus.read32 0x03FFFFFC = keypadReady.tick.bus.read32 0x03FFFFFC :=
    read32_setKey keypadReady.tick .a true (by decide)
  rw [kept, stored, value]

/-- No breakpoint is set, so no tick of the example stops. -/
theorem unwatched_keypadPressed : keypadPressed.debugger.Unwatched := by
  have started : keypadStarted.debugger.Unwatched := ⟨rfl, fun set _ => by cases set <;> rfl⟩
  have ready : keypadReady.debugger.Unwatched := unwatched_tickMultiple started 11
  rw [keypadPressed, debugger_setKey]
  exact unwatched_tick ready

/-- The program has allowed the interrupt of the keys, set up a stack for it and gone on in System
mode, and the key that is pressed has made a request. -/
theorem state_keypadPressed :
    keypadPressed.regs.mode = .system ∧ keypadPressed.regs.flag Status.irqMask = false ∧
      keypadPressed.io.pendingInterrupts = 0x1000 ∧ keypadPressed.io.masterEnable = true ∧
      keypadPressed.regs.banked .irq .sp = 0x03007FA0 := by
  decide +kernel

/-- So the next tick takes the interrupt, with a stack that lies in work memory and apart from the
pointer to the handler. -/
theorem interruptible_keypadPressed : keypadPressed.Interruptible := by
  obtain ⟨mode, unmasked, pending, enabled, stackPointer⟩ := state_keypadPressed
  refine ⟨?_, unmasked, ?_, enabled, unwatched_keypadPressed.passes _, ?_⟩
  · rw [mode]
    decide
  · rw [pending]
    decide
  · rw [stackPointer]
    unfold BootRom.StackInWorkMemory
    decide

theorem run_tickMultiple (console : Console) (count : Nat) :
    console.run [.tickMultiple count] = console.tickMultiple count := rfl

/-- No tick changes the program in the Game Pak, so that its instructions are there whenever they
are fetched. -/
theorem gamePak_keypadPressed (count : Nat) :
    (keypadPressed.tickMultiple count).bus.gamePak =
      (keypadProgram.flatMap Word.bytes).toArray := by
  have started : keypadStarted.bus.gamePak = (keypadProgram.flatMap Word.bytes).toArray := by
    decide +kernel
  have ready : keypadReady.bus.gamePak = keypadStarted.bus.gamePak :=
    tickMultiple_kept (·.bus.gamePak) gamePak_tick keypadStarted 11
  have pressed : keypadPressed.bus.gamePak = keypadReady.bus.gamePak := by
    rw [keypadPressed, gamePak_setKey, gamePak_tick]
  rw [← started, ← ready, ← pressed]
  exact tickMultiple_kept (·.bus.gamePak) gamePak_tick keypadPressed count

/-- A halfword stored at the request register acknowledges some of the requests. The store reaches
the peripherals only, so the interrupt goes on being served. -/
theorem Serving.acknowledge {console : Console} {pc : Word} (serving : console.Serving pc)
    (awake : console.isStopped = false) (aligned : pc.toNat % 4 = 0) {word : Word}
    (fetched : console.machine.fetchWord = word)
    (decoded : Arm.decode word =
      ⟨.al, .halfwordTransfer false .unsigned ⟨true, true, false⟩ 1 2 (.immediate 2)⟩)
    (base : console.regs.get 1 = 0x04000200) :
    Moved [.pc] (pc + 4) console console.tick := by
  let moved := console.regs.setPc (pc + 4)
  have start : Arm.read moved 1 = 0x04000200 :=
    (operand_of_ne _ (by decide) _).trans ((get_set_of_ne _ (by decide) _).trans base)
  have address : Arm.read moved 1 + 2 = 0x04000202 := by
    rw [start]
    rfl
  let written := console.io.writeHalf .interruptFlags (Arm.readLate moved 2).lowHalf
  have effect :
      (Arm.Instruction.halfwordTransfer false .unsigned ⟨true, true, false⟩ 1 2
        (.immediate 2)).execute ⟨moved, console.bus⟩ =
          ⟨moved, { console.bus with io := written }⟩ := by
    change (Machine.mk moved (console.bus.write16 (Arm.read moved 1 + 2) _)).mapRegs _ = _
    rw [address]
    rfl
  exact (serving.moved_of_fetched awake aligned fetched decoded rfl effect serving.noHaltRequest
    (ChangedOnly.set _ _ _) (pc_setPc _ _)).1

/-- The handler returns to the address in the link register, where the second half of the routine
begins. -/
theorem Serving.returnToLink {console : Console} {pc : Word} (serving : console.Serving pc)
    (awake : console.isStopped = false) (aligned : pc.toNat % 4 = 0) {word : Word}
    (fetched : console.machine.fetchWord = word)
    (decoded : Arm.decode word =
      ⟨.al, .dataProcessing .mov false 0 .pc (.register .lr .lsl (.immediate 0))⟩)
    (link : console.regs.get .lr = 0x30) :
    Moved [.pc, .pc] 0x30 console console.tick := by
  let moved := console.regs.setPc (pc + 4)
  have arm : moved.thumb = false := serving.arm
  have target : Arm.read moved .lr = 0x30 :=
    (operand_of_ne _ (by decide) _).trans ((get_set_of_ne _ (by decide) _).trans link)
  have effect :
      (Arm.Instruction.dataProcessing .mov false 0 .pc
        (.register .lr .lsl (.immediate 0))).execute ⟨moved, console.bus⟩ =
          ⟨moved.setPc 0x30, console.bus⟩ := by
    refine congrArg (Machine.mk · console.bus) ?_
    change moved.branchTo (Arm.read moved .lr) = _
    rw [target, branchTo_of_arm arm]
    rfl
  exact (serving.moved_of_fetched awake aligned fetched decoded rfl effect serving.noHaltRequest
    ((ChangedOnly.set _ _ _).trans (ChangedOnly.set _ _ _)) (pc_setPc _ _)).1

/-- The handler acknowledges the request and returns to the routine, five ticks after it was
called. It changes two registers and no memory. -/
theorem handler_returns {entered : Console} (serving : entered.Serving 0x08000034)
    (unwatched : entered.debugger.Unwatched)
    (inserted : entered.bus.gamePak = (keypadProgram.flatMap Word.bytes).toArray)
    (link : entered.regs.get .lr = 0x30) :
    Served [.pc, 1, 2] 0x30 entered (entered.tickMultiple 5) := by
  have inRow : entered.tickMultiple 5 = entered.tick.tick.tick.tick.tick := by
    simp only [tickMultiple_succ]
    rfl
  have awake {console : Console} (unwatched : console.debugger.Unwatched) :
      console.isStopped = false := unwatched.notStopped
  obtain ⟨base, baseValue⟩ := serving.moveImmediate (awake unwatched) (by decide)
    (Machine.fetchWord_gamePak inserted serving.pc (i := 13) (by decide) (by decide)) (by decide)
    (by decide : Arm.decode 0xE3A01301 =
      ⟨.al, .dataProcessing .mov false 0 1 (.immediate 0x04000000 6)⟩)
  have unwatched := unwatched_tick unwatched
  have inserted := (gamePak_tick entered).trans inserted
  have start : Arm.read (entered.tick.regs.setPc (0x08000034 + 4 + 4)) 1 + 0x200 = 0x04000200 := by
    have value : Arm.read (entered.tick.regs.setPc (0x08000034 + 4 + 4)) 1 = 0x04000000 :=
      (operand_of_ne _ (by decide) _).trans ((get_set_of_ne _ (by decide) _).trans baseValue)
    rw [value]
    rfl
  obtain ⟨requests, requestsValue⟩ := base.serving.addImmediate (awake unwatched) (by decide)
    (Machine.fetchWord_gamePak inserted base.serving.pc (i := 14) (by decide) (by decide))
    (by decide) (by decide : Arm.decode 0xE2811C02 =
      ⟨.al, .dataProcessing .add false 1 1 (.immediate 0x200 24)⟩) start
  have unwatched := unwatched_tick unwatched
  have inserted := (gamePak_tick _).trans inserted
  obtain ⟨mask, -⟩ := requests.serving.moveImmediate (awake unwatched) (by decide)
    (Machine.fetchWord_gamePak inserted requests.serving.pc (i := 15) (by decide) (by decide))
    (by decide) (by decide : Arm.decode 0xE3A02A01 =
      ⟨.al, .dataProcessing .mov false 0 2 (.immediate 0x1000 20)⟩)
  have unwatched := unwatched_tick unwatched
  have inserted := (gamePak_tick _).trans inserted
  have acknowledge := mask.serving.acknowledge (awake unwatched) (by decide)
    (Machine.fetchWord_gamePak inserted mask.serving.pc (i := 16) (by decide) (by decide))
    (by decide) ((mask.changes.kept 1 (by decide)).trans requestsValue)
  have unwatched := unwatched_tick unwatched
  have inserted := (gamePak_tick _).trans inserted
  have worked := ((base.toServed.trans requests.toServed).trans mask.toServed).trans
    acknowledge.toServed
  have back := acknowledge.serving.returnToLink (awake unwatched) (by decide)
    (Machine.fetchWord_gamePak inserted acknowledge.serving.pc (i := 17) (by decide) (by decide))
    (by decide) ((worked.changes.kept .lr (by decide)).trans link)
  rw [inRow]
  exact (worked.trans back.toServed).mono (by decide)

/-- A key interrupts the program while it waits. The handler acknowledges the request, and the
program goes on waiting with nothing lost. -/
theorem keypad_interrupt_transparent :
    let handler : List Operation := [.tickMultiple 5]
    keypadPressed.Interruptible ∧ keypadPressed.bus.read32 0x03FFFFFC = 0x08000034 ∧
      (keypadPressed.tickMultiple 6).regs.pc = 0x08000034 ∧
      HandedBack keypadPressed.regs.mode (keypadPressed.tickMultiple 6)
        ((keypadPressed.tickMultiple 6).run handler) ∧
      let resumed := ((keypadPressed.tickMultiple 6).run handler).tickMultiple 2
      resumed.runState = .running ∧ resumed.regs.pc = keypadPressed.regs.pc ∧
        resumed.regs.cpsr = keypadPressed.regs.cpsr ∧
        ∀ r, r ≠ .pc → resumed.regs.get r = keypadPressed.regs.get r := by
  intro handler
  have started : keypadStarted.Reachable := ⟨_, _, rfl⟩
  have ready : keypadReady.Reachable := started.apply (.tickMultiple 11)
  have reachable : keypadPressed.Reachable := (ready.apply .tick).apply (.setKey .a true)
  have interruptible := interruptible_keypadPressed
  obtain ⟨⟨pc, _⟩, returns⟩ := interrupt_transparent reachable interruptible
  obtain ⟨serving, -, stackPointer, link, -⟩ := handler_called (consistent_reachable reachable)
    (bios_reachable reachable) interruptible
  have aligned : (0x08000034 : Word).alignWord = 0x08000034 := by decide
  rw [handler_keypadPressed, aligned] at pc serving
  have unwatched := unwatched_tickMultiple unwatched_keypadPressed 6
  have served := handler_returns serving unwatched (gamePak_keypadPressed 6) link
  have top := state_keypadPressed.2.2.2.2
  have back : HandedBack keypadPressed.regs.mode (keypadPressed.tickMultiple 6)
      ((keypadPressed.tickMultiple 6).run handler) := by
    rw [run_tickMultiple]
    refine handedBack_of_served served ((unwatched_tickMultiple unwatched 5).passes _) (by decide)
      ?_ _
    rw [stackPointer, top]
    decide
  exact ⟨interruptible, handler_keypadPressed, pc, back, returns handler back⟩

end Handheld.Console
