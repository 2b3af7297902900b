import Handheld.Proofs.Arm.BlockTransfer
import Handheld.Proofs.Arm.DataProcessing
import Handheld.Proofs.Console.Tick
import Handheld.Proofs.Memory.BootProgram

/-!
# The interrupt routine of the boot ROM

The boot ROM saves six registers on the stack of interrupts, calls the handler whose address is
stored at `0x03FFFFFC`, restores the six registers and returns to the interrupted program. A console
that executes it is `Serving`: it runs ARM code in IRQ mode with interrupts masked, so no tick takes
an interrupt, and each tick executes the instruction of the boot program at its place
(`Console.Serving.ticked`).
-/

namespace Handheld

open RegisterFile

namespace BootRom

/-- The registers that the interrupt routine saves below a stack pointer, and where it does. -/
def savedSlots (top : Word) : List (Word × RegNum) :=
  transferSlots (top - 24) (listedRegisters 0x500F)

/-- The routine saves the registers that a called function need not preserve, and its return
address. -/
theorem listedRegisters_saved : listedRegisters 0x500F = [0, 1, 2, 3, 12, .lr] := by
  decide

/-- They are stored in this order, the lowest number at the lowest address. -/
theorem savedSlots_registers (top : Word) :
    (savedSlots top).map (·.2) = [0, 1, 2, 3, 12, .lr] := by
  rw [savedSlots, snd_transferSlots, listedRegisters_saved]

/-- The program counter is not among them, so nothing is restored into it with the rest. -/
theorem ne_pc_of_savedSlots {top : Word} {slot : Word × RegNum} (member : slot ∈ savedSlots top) :
    slot.2 ≠ .pc := by
  have listed : slot.2 ∈ (savedSlots top).map (·.2) := List.mem_map_of_mem member
  rw [savedSlots_registers] at listed
  intro isPc
  rw [isPc] at listed
  revert listed
  decide

/-- The store decrements the stack pointer first: six words end right below the old top, and the
pointer moves down by 24. -/
theorem block_save (top : Word) :
    Arm.Indexing.decrementBefore.block top 0x500F = ⟨savedSlots top, top - 24⟩ := by
  rw [Arm.block_decrementBefore (by decide), savedSlots, listedRegisters_saved]
  rfl

/-- The load increments it again, over the same six words, back to the old top. -/
theorem block_restore (top : Word) :
    Arm.Indexing.incrementAfter.block (top - 24) 0x500F = ⟨savedSlots top, top⟩ := by
  rw [Arm.block_incrementAfter (by decide), savedSlots, listedRegisters_saved]
  exact congrArg (Arm.Block.mk (savedSlots top)) (BitVec.sub_add_cancel top 24)

/-- The address of one of the six words below a stack pointer. -/
def savedAddress (top : Word) (k : Nat) : Word := top - 24 + BitVec.ofNat 32 (4 * k)

/-- The saved registers lie in consecutive words. -/
theorem getElem_savedSlots (top : Word) {k : Nat} (bound : k < (savedSlots top).length) :
    (savedSlots top)[k].1 = savedAddress top k := fst_transferSlots _ _ bound

/-- The six words below a stack pointer lie in work memory, and the word that holds the address of
the handler is not among them. -/
def StackInWorkMemory (top : Word) : Prop :=
  ∀ k < 6, let address := (savedAddress top k).alignWord
    Region.ofAddress address = .ewram ∨
      (Region.ofAddress address = .iwram ∧ Region.iwram.offset? address ≠ some 0x7FFC)

namespace StackInWorkMemory

variable {top : Word}

/-- Each of the six words is a cell of work memory, and none is the pointer to the handler. This is
all that is asked of the stack of interrupts. -/
theorem exists_cell (stack : StackInWorkMemory top) {k : Nat} (bound : k < 6) :
    ∃ cell, Bus.workCell? (savedAddress top k).alignWord = some cell ∧ cell ≠ 0x47FFC := by
  rcases stack k bound with outside | ⟨inside, notHandler⟩
  · have small := Bus.toNat_offset_ewram (savedAddress top k).alignWord
    refine ⟨_, by rw [Bus.workCell?, outside], ?_⟩
    omega
  · refine ⟨_, by rw [Bus.workCell?, inside], ?_⟩
    intro same
    refine notHandler (congrArg some ?_)
    omega

/-- All saved registers go to work memory, where stores are kept. -/
theorem work (stack : StackInWorkMemory top) :
    ∀ slot ∈ savedSlots top, (Bus.workCell? slot.1.alignWord).isSome := by
  intro slot member
  obtain ⟨k, bound, rfl⟩ := List.mem_iff_getElem.mp member
  obtain ⟨cell, isCell, _⟩ := stack.exists_cell bound
  rw [getElem_savedSlots top bound, isCell]
  rfl

/-- Saving the registers does not overwrite the pointer to the handler, which the routine reads
after it. The pointer is seen through a mirror of work memory. -/
theorem apart_from_handler (stack : StackInWorkMemory top) :
    ∀ slot ∈ savedSlots top,
      Bus.workCell? slot.1.alignWord ≠ Bus.workCell? (0x03FFFFFC : Word).alignWord := by
  intro slot member
  obtain ⟨k, bound, rfl⟩ := List.mem_iff_getElem.mp member
  obtain ⟨cell, isCell, notHandler⟩ := stack.exists_cell bound
  have handler : Bus.workCell? (0x03FFFFFC : Word).alignWord = some 0x47FFC := by decide
  rw [getElem_savedSlots top bound, isCell, handler]
  exact fun same => notHandler (Option.some.inj same)

/-- No two saved registers share a cell, although work memory is mirrored: six words in a row are
six cells, however far they are from its end. -/
theorem pairwise_apart (stack : StackInWorkMemory top) :
    (savedSlots top).Pairwise fun first second =>
      Bus.workCell? first.1.alignWord ≠ Bus.workCell? second.1.alignWord := by
  rw [List.pairwise_iff_getElem]
  intro i j boundI boundJ before
  have lastPlace : j < 6 := boundJ
  obtain ⟨cell, isCell, _⟩ := stack.exists_cell (Nat.lt_trans before lastPlace)
  rw [getElem_savedSlots top boundI, getElem_savedSlots top boundJ]
  exact Bus.workCell?_ne_of_consecutive before (Nat.lt_trans lastPlace (by decide))
    (Option.isSome_of_mem isCell)

/-- The words of the stack are below the peripheral registers. -/
theorem below_io (stack : StackInWorkMemory top) :
    ∀ slot ∈ savedSlots top, slot.1.toNat < 0x4000000 := by
  intro slot member
  obtain ⟨cell, isCell⟩ := Option.isSome_iff_exists.mp (stack.work slot member)
  rw [Bus.workCell?_eq_some_iff, Word.toNat_alignWord] at isCell
  omega

end StackInWorkMemory

end BootRom

namespace Console

/-- A console that executes ARM code at `pc` while it serves an interrupt. -/
structure Serving (console : Console) (pc : Word) : Prop where
  boot : console.bus.bios = BootRom.image
  pc : console.regs.pc = pc
  arm : console.regs.thumb = false
  irq : console.regs.mode = .irq
  masked : console.regs.flag Status.irqMask = true
  running : console.runState = .running
  noHaltRequest : console.io.haltRequested = false

namespace Serving

variable {console : Console} {pc : Word}

/-- While an interrupt is served no other one is taken, so every tick executes the instruction that
it fetches, be it of the routine or of a handler. -/
theorem ticked_of_fetched (serving : console.Serving pc) (awake : console.isStopped = false)
    {word : Word} (fetched : console.machine.fetchWord = word) {instruction : Arm.Instruction}
    (decoded : Arm.decode word = ⟨.al, instruction⟩) (noTrap : instruction.trap? = none)
    (noHaltRequest :
      (instruction.execute (console.machine.advance .arm)).bus.io.haltRequested = false) :
    Ticked console (instruction.execute (console.machine.advance .arm)) console.tick := by
  rw [← fetched] at decoded
  exact ticked_instruction awake serving.running (takesInterrupt_of_masked serving.masked)
    serving.arm decoded noTrap noHaltRequest

/-- The routine is executed instruction by instruction: what is fetched is a word of the boot ROM,
and no interrupt comes in between, since the processor masks them. -/
theorem ticked (serving : console.Serving pc) (awake : console.isStopped = false)
    (inRom : pc.toNat < 0x4000) (aligned : pc.toNat % 4 = 0) {instruction : Arm.Instruction}
    (decoded : Arm.decode (BootRom.program[pc.toNat / 4]?.getD 0) = ⟨.al, instruction⟩)
    (noTrap : instruction.trap? = none)
    (io : (instruction.execute (console.machine.advance .arm)).bus.io = console.io) :
    Ticked console (instruction.execute (console.machine.advance .arm)) console.tick := by
  have fetched := Machine.fetchWord_bios serving.boot serving.pc inRom aligned
  refine serving.ticked_of_fetched awake fetched decoded noTrap ?_
  rw [io]
  exact serving.noHaltRequest

/-- The console goes on serving at the address that was reached, as long as the instruction changes
neither the status nor the boot ROM and asks for no sleep. -/
theorem next (serving : console.Serving pc) {after : Console} {machine : Machine}
    (ticked : Ticked console machine after) {changed : List RegNum}
    (changes : console.regs.ChangedOnly changed machine.regs)
    (boot : machine.bus.bios = console.bus.bios) {target : Word}
    (reached : machine.regs.pc = target) : after.Serving target where
  boot := by
    rw [ticked.bus]
    exact boot.trans serving.boot
  pc := by rw [ticked.regs, reached]
  arm := by rw [ticked.regs, changes.thumb, serving.arm]
  irq := by rw [ticked.regs, changes.mode, serving.irq]
  masked := by rw [ticked.regs, changes.flag, serving.masked]
  running := ticked.running
  noHaltRequest := ticked.noHaltRequest

/-- Fetching an instruction of the routine moves the program counter to the next word and changes
nothing else. -/
theorem advance (serving : console.Serving pc) (aligned : pc.toNat % 4 = 0) :
    console.machine.advance .arm = ⟨console.regs.setPc (pc + 4), console.bus⟩ :=
  Machine.advance_of_aligned serving.pc aligned

end Serving

/-- What was done to a console that serves an interrupt changed some registers and no memory, and
the interrupt goes on being served at `target`. -/
structure Served (changed : List RegNum) (target : Word) (before after : Console) : Prop where
  serving : after.Serving target
  changes : before.regs.ChangedOnly changed after.regs
  words : ∀ address : Word, address.toNat < 0x4000000 →
    after.bus.read32 address = before.bus.read32 address

/-- What was served in two parts was served as a whole. The registers that changed are those of both
parts. -/
theorem Served.trans {first second : List RegNum} {middle last : Word} {a b c : Console}
    (earlier : Served first middle a b) (later : Served second last b c) :
    Served (first ++ second) last a c :=
  ⟨later.serving, earlier.changes.trans later.changes, fun address below =>
    (later.words address below).trans (earlier.words address below)⟩

/-- It does no harm to allow more registers to change than did, so that parts with different
registers can be put together. -/
theorem Served.mono {changed more : List RegNum} {target : Word} {before after : Console}
    (served : Served changed target before after) (wider : ∀ r ∈ changed, r ∈ more) :
    Served more target before after :=
  ⟨served.serving, served.changes.mono wider, served.words⟩

/-- One tick does so, and a debugger that has no breakpoint at `target` does not hold execution
there. -/
structure Moved (changed : List RegNum) (target : Word) (before after : Console) : Prop
    extends Served changed target before after where
  passes : ∀ rest, before.debugger.Passes (target :: rest) → after.debugger.Passes rest

/-- The words of memory after a tick are those that its instruction leaves, since the clock writes
to the peripherals only. -/
theorem Ticked.read32 {before after : Console} {machine : Machine}
    (ticked : Ticked before machine after) {address : Word} (below : address.toNat < 0x4000000) :
    after.bus.read32 address = machine.bus.read32 address := by
  rw [ticked.bus, Bus.read32_withIo _ _ below]

/-- A tick that arrives at an address without a breakpoint goes on past it, and the addresses after
it are passed if they were to be passed before. -/
theorem Ticked.passes {before after : Console} {machine : Machine}
    (ticked : Ticked before machine after) (arm : machine.regs.thumb = false) {target : Word}
    (reached : machine.regs.pc = target) {rest : List Word}
    (passes : before.debugger.Passes (target :: rest)) : after.debugger.Passes rest := by
  obtain ⟨committed?, followed⟩ := ticked.debugger
  have set := instructionSet_of_arm arm
  rw [followed, set, reached]
  exact passes.afterTick committed?

/-- A tick of an instruction that changes some registers and at most the peripherals besides goes on
serving, wherever the instruction was fetched from. This holds of the routine and of a handler
alike. -/
theorem Serving.moved_of_fetched {console : Console} {pc : Word} (serving : console.Serving pc)
    (awake : console.isStopped = false) (aligned : pc.toNat % 4 = 0) {word : Word}
    (fetched : console.machine.fetchWord = word) {instruction : Arm.Instruction}
    (decoded : Arm.decode word = ⟨.al, instruction⟩) (noTrap : instruction.trap? = none)
    {regs : RegisterFile} {io : IoRegisters}
    (effect : instruction.execute ⟨console.regs.setPc (pc + 4), console.bus⟩ =
      ⟨regs, { console.bus with io }⟩) (noHaltRequest : io.haltRequested = false)
    {changed : List RegNum} (changes : console.regs.ChangedOnly changed regs) {target : Word}
    (reached : regs.pc = target) :
    Moved changed target console console.tick ∧ console.tick.regs = regs := by
  rw [← serving.advance aligned] at effect
  have ticked := serving.ticked_of_fetched awake fetched decoded noTrap
    (by rw [effect]; exact noHaltRequest)
  rw [effect] at ticked
  have arm : regs.thumb = false := changes.thumb.trans serving.arm
  refine ⟨⟨⟨serving.next ticked changes rfl reached, ?_, ?_⟩, ?_⟩, ticked.regs⟩
  · rw [ticked.regs]
    exact changes
  · intro address below
    rw [ticked.read32 below]
    exact Bus.read32_withIo console.bus io below
  · intro rest passes
    exact ticked.passes arm reached passes

/-- A tick of an instruction of the routine that changes registers only. What was fetched is the
word of the boot ROM at this address. -/
theorem Serving.moved {console : Console} {pc : Word} (serving : console.Serving pc)
    (awake : console.isStopped = false) (inRom : pc.toNat < 0x4000) (aligned : pc.toNat % 4 = 0)
    {instruction : Arm.Instruction}
    (decoded : Arm.decode (BootRom.program[pc.toNat / 4]?.getD 0) = ⟨.al, instruction⟩)
    (noTrap : instruction.trap? = none) {regs : RegisterFile}
    (effect : instruction.execute ⟨console.regs.setPc (pc + 4), console.bus⟩ =
      ⟨regs, console.bus⟩)
    {changed : List RegNum} (changes : console.regs.ChangedOnly changed regs) {target : Word}
    (reached : regs.pc = target) :
    Moved changed target console console.tick ∧ console.tick.regs = regs := by
  have fetched := Machine.fetchWord_bios serving.boot serving.pc inRom aligned
  exact serving.moved_of_fetched awake aligned fetched decoded noTrap effect serving.noHaltRequest
    changes reached

/-- A tick of an instruction that puts a value into a register goes on to the next instruction, with
the value in the register. -/
theorem Serving.sets {console : Console} {pc : Word} (serving : console.Serving pc)
    (awake : console.isStopped = false) (aligned : pc.toNat % 4 = 0) {word : Word}
    (fetched : console.machine.fetchWord = word) {instruction : Arm.Instruction}
    (decoded : Arm.decode word = ⟨.al, instruction⟩) (noTrap : instruction.trap? = none)
    {rd : RegNum} (notPc : rd ≠ .pc) {value : Word}
    (effect : instruction.execute ⟨console.regs.setPc (pc + 4), console.bus⟩ =
      ⟨(console.regs.setPc (pc + 4)).set rd value, console.bus⟩) :
    Moved [.pc, rd] (pc + 4) console console.tick ∧ console.tick.regs.get rd = value := by
  obtain ⟨moved, regs⟩ := serving.moved_of_fetched awake aligned fetched decoded noTrap effect
    serving.noHaltRequest ((ChangedOnly.set _ _ _).trans (ChangedOnly.set _ _ _))
    ((pc_set_of_ne _ notPc _).trans (pc_setPc _ _))
  refine ⟨moved, ?_⟩
  rw [regs, get_set_self]

/-- A tick of a move puts its constant into the register. The constant is given as the decoder has
rotated it already. -/
theorem Serving.moveImmediate {console : Console} {pc : Word} (serving : console.Serving pc)
    (awake : console.isStopped = false) (aligned : pc.toNat % 4 = 0) {word : Word}
    (fetched : console.machine.fetchWord = word) {rd : RegNum} (notPc : rd ≠ .pc) {value : Word}
    {rotate : BitVec 5} (decoded : Arm.decode word =
      ⟨.al, .dataProcessing .mov false 0 rd (.immediate value rotate)⟩) :
    Moved [.pc, rd] (pc + 4) console console.tick ∧ console.tick.regs.get rd = value := by
  refine serving.sets awake aligned fetched decoded rfl notPc ?_
  refine congrArg (Machine.mk · console.bus) ?_
  rw [Arm.dataProcessing_keepFlags _ _ rfl _ notPc rfl]
  rfl

/-- A tick of an addition puts the sum of a register and a constant into a register. The sum is
given by the caller, who knows the register. -/
theorem Serving.addImmediate {console : Console} {pc : Word} (serving : console.Serving pc)
    (awake : console.isStopped = false) (aligned : pc.toNat % 4 = 0) {word : Word}
    (fetched : console.machine.fetchWord = word) {rn rd : RegNum} (notPc : rd ≠ .pc)
    {value : Word} {rotate : BitVec 5} (decoded : Arm.decode word =
      ⟨.al, .dataProcessing .add false rn rd (.immediate value rotate)⟩) {sum : Word}
    (adds : Arm.read (console.regs.setPc (pc + 4)) rn + value = sum) :
    Moved [.pc, rd] (pc + 4) console console.tick ∧ console.tick.regs.get rd = sum := by
  refine serving.sets awake aligned fetched decoded rfl notPc ?_
  refine congrArg (Machine.mk · console.bus) ?_
  change Arm.dataProcessing _ _ _ _ _ (console.regs.setPc (pc + 4)) = _
  rw [Arm.dataProcessing_keepFlags _ _ rfl _ notPc rfl]
  simp only [Arm.Opcode.compute, Arm.Operand.evaluate, Adder.value_add, adds]

/-- In ARM code a branch goes to the target with its two lowest bits cleared. -/
theorem branchTo_of_arm {regs : RegisterFile} (arm : regs.thumb = false) (target : Word) :
    regs.branchTo target = regs.setPc target.alignWord := by
  rw [branchTo, instructionSet_of_arm arm]
  rfl

/-! ## Entry -/

/-- An interrupt is taken, whether the processor runs or is halted: the tick enters it and leaves a
console that serves it at the vector. -/
theorem serving_of_interrupt {console : Console} (boot : console.bus.bios = BootRom.image)
    (awake : console.isStopped = false) (pending : console.io.pendingInterrupts ≠ 0)
    (enabled : console.io.masterEnable = true)
    (unmasked : console.regs.flag Status.irqMask = false)
    (noHaltRequest : console.io.haltRequested = false) :
    Ticked console (console.machine.mapRegs (·.enterException .irq)) console.tick ∧
      console.tick.Serving 0x18 := by
  have ticked := ticked_interrupt awake pending enabled unmasked noHaltRequest
  refine ⟨ticked, ?_, ?_, ?_, ?_, ?_, ticked.running, ticked.noHaltRequest⟩
  · rw [ticked.bus]
    exact boot
  · rw [ticked.regs]
    exact pc_enterException console.regs .irq
  · rw [ticked.regs]
    exact thumb_enterException console.regs .irq
  · rw [ticked.regs]
    exact mode_enterException console.regs .irq
  · rw [ticked.regs]
    exact irqMask_enterException console.regs .irq

/-- The first tick of the routine is the branch of the vector to the routine itself. It changes no
register but `r15`. -/
theorem Serving.branch {console : Console} (serving : console.Serving 0x18)
    (awake : console.isStopped = false) : Moved [.pc, .pc] 0x20 console console.tick := by
  have arm : (console.regs.setPc 0x1C).thumb = false := serving.arm
  have ahead : Arm.read (console.regs.setPc 0x1C) .pc + 0 = 0x20 := by
    rw [Arm.read, operand, if_pos rfl, pc_setPc]
    rfl
  have effect : (Arm.Instruction.branch false 0).execute
      ⟨console.regs.setPc 0x1C, console.bus⟩ =
      ⟨(console.regs.setPc 0x1C).setPc 0x20, console.bus⟩ := by
    refine congrArg (Machine.mk · console.bus) ?_
    change (console.regs.setPc 0x1C).branchTo (Arm.read (console.regs.setPc 0x1C) .pc + 0) = _
    rw [ahead, branchTo_of_arm arm]
    rfl
  exact (serving.moved awake (by decide) (by decide)
    (by decide : Arm.decode 0xEA000000 = ⟨.al, .branch false 0⟩) rfl effect
    ((ChangedOnly.set _ _ _).trans (ChangedOnly.set _ _ _)) (pc_setPc _ _)).1

/-- Six registers are saved on the stack of interrupts. The tick leaves their words in memory, the
stack pointer below them, and the pointer to the handler as it was. -/
theorem Serving.save {console : Console} (serving : console.Serving 0x20)
    (awake : console.isStopped = false)
    (stack : BootRom.StackInWorkMemory (console.regs.get .sp)) :
    let left := (console.regs.setPc 0x24).set .sp (console.regs.get .sp - 24)
    console.tick.Serving 0x24 ∧ console.tick.regs = left ∧
      console.regs.ChangedOnly [.pc, .sp] left ∧
      (∀ slot ∈ BootRom.savedSlots (console.regs.get .sp),
        console.tick.bus.read32 slot.1 = console.regs.get slot.2) ∧
      console.tick.bus.read32 0x03FFFFFC = console.bus.read32 0x03FFFFFC ∧
      ∀ rest, console.debugger.Passes (0x24 :: rest) → console.tick.debugger.Passes rest := by
  intro left
  let machine : Machine := ⟨console.regs.setPc 0x24, console.bus⟩
  let top := console.regs.get .sp
  let writes := (BootRom.savedSlots top).map fun slot => (slot.1, machine.regs.get slot.2)
  have effect : (Arm.Instruction.blockTransfer false false .decrementBefore .sp 0x500F).execute
      (console.machine.advance .arm) =
      (machine.storeWords writes).mapRegs (·.set .sp (top - 24)) := by
    have laidOut : Arm.Indexing.decrementBefore.block (machine.regs.get .sp) 0x500F =
        ⟨BootRom.savedSlots top, top - 24⟩ := by
      have base : machine.regs.get .sp = top := get_set_of_ne _ (by decide) _
      rw [base]
      exact BootRom.block_save top
    rw [serving.advance (by decide)]
    refine Arm.blockTransfer_store_of_notMem (by decide) rfl laidOut ?_ ?_
    · rw [BootRom.savedSlots_registers]
      decide
    · rw [BootRom.savedSlots_registers]
      decide
  have work : ∀ write ∈ writes, (Bus.workCell? write.1.alignWord).isSome :=
    List.forall_mem_map.mpr stack.work
  have ticked := serving.ticked awake (by decide) (by decide)
    (by decide : Arm.decode 0xE92D500F =
      ⟨.al, .blockTransfer false false .decrementBefore .sp 0x500F⟩) rfl
    (by rw [effect]; exact Bus.io_storeWords work machine)
  rw [effect] at ticked
  have changes : console.regs.ChangedOnly [.pc, .sp] left :=
    (ChangedOnly.set _ _ _).trans (ChangedOnly.set _ _ _)
  have reached : left.pc = 0x24 := (pc_set_of_ne _ (by decide) _).trans (pc_setPc _ _)
  have boot : ((machine.storeWords writes).mapRegs (·.set .sp (top - 24))).bus.bios =
      console.bus.bios := (Bus.Written.storeWords machine writes).bios
  refine ⟨serving.next ticked changes boot reached, ticked.regs, changes, ?_, ?_, ?_⟩
  · intro slot member
    have stored : (slot.1, machine.regs.get slot.2) ∈ writes := List.mem_map_of_mem member
    have notPc := BootRom.ne_pc_of_savedSlots member
    rw [ticked.read32 (stack.below_io slot member)]
    refine (Bus.read32_storeWords work (List.pairwise_map.mpr stack.pairwise_apart) stored
      machine).trans ?_
    exact get_set_of_ne _ notPc _
  · rw [ticked.read32 (by decide)]
    exact Bus.read32_storeWords_of_apart work (List.forall_mem_map.mpr stack.apart_from_handler)
      machine
  · intro rest passes
    have arm : left.thumb = false := changes.thumb.trans serving.arm
    exact ticked.passes arm reached passes

/-- The address of the peripheral registers goes to `r0`. The handler is found relative to it, right
below. -/
theorem Serving.loadBase {console : Console} (serving : console.Serving 0x24)
    (awake : console.isStopped = false) :
    Moved [.pc, 0] 0x28 console console.tick ∧ console.tick.regs.get 0 = 0x04000000 :=
  serving.moveImmediate awake (by decide)
    (Machine.fetchWord_bios serving.boot serving.pc (by decide) (by decide)) (by decide)
    (by decide : Arm.decode 0xE3A00301 =
      ⟨.al, .dataProcessing .mov false 0 0 (.immediate 0x04000000 6)⟩)

/-- The address after the call goes to the link register, so that the handler can return to the
second half of the routine. -/
theorem Serving.link {console : Console} (serving : console.Serving 0x28)
    (awake : console.isStopped = false) :
    Moved [.pc, .lr] 0x2C console console.tick ∧ console.tick.regs.get .lr = 0x30 := by
  have ahead : Arm.read (console.regs.setPc 0x2C) .pc + 0 = 0x30 := by
    rw [Arm.read, operand, if_pos rfl, pc_setPc]
    rfl
  exact serving.addImmediate awake (by decide)
    (Machine.fetchWord_bios serving.boot serving.pc (by decide) (by decide)) (by decide)
    (by decide : Arm.decode 0xE28FE000 =
      ⟨.al, .dataProcessing .add false .pc .lr (.immediate 0 0)⟩) ahead

/-- The handler is called whose address is stored in the last word below the peripheral
registers. -/
theorem Serving.call {console : Console} (serving : console.Serving 0x2C)
    (awake : console.isStopped = false) (base : console.regs.get 0 = 0x04000000) :
    Moved [.pc, .pc] (console.bus.read32 0x03FFFFFC).alignWord console console.tick := by
  have arm : (console.regs.setPc 0x30).thumb = false := serving.arm
  have start : (console.regs.setPc 0x30).get 0 = 0x04000000 := by
    rw [setPc, get_set_of_ne _ (by decide), base]
  have address : Arm.read (console.regs.setPc 0x30) 0 - 4 = 0x03FFFFFC := by
    rw [Arm.read, operand_of_ne _ (by decide), start]
    rfl
  have loaded : console.bus.loadWord 0x03FFFFFC = console.bus.read32 0x03FFFFFC := by
    apply BitVec.eq_of_toNat_eq
    simp [Bus.loadWord, BitVec.rotateRight_def]
  have effect : (Arm.Instruction.singleTransfer true false ⟨true, false, false⟩ 0 .pc
        (.immediate 4)).execute ⟨console.regs.setPc 0x30, console.bus⟩ =
      ⟨(console.regs.setPc 0x30).setPc (console.bus.read32 0x03FFFFFC).alignWord,
        console.bus⟩ := by
    refine congrArg (Machine.mk · console.bus) ?_
    change (console.regs.setPc 0x30).branchTo
      (console.bus.loadWord (Arm.read (console.regs.setPc 0x30) 0 - 4)) = _
    rw [address, loaded, branchTo_of_arm arm]
  exact (serving.moved awake (by decide) (by decide)
    (by decide : Arm.decode 0xE510F004 =
      ⟨.al, .singleTransfer true false ⟨true, false, false⟩ 0 .pc (.immediate 4)⟩) rfl effect
    ((ChangedOnly.set _ _ _).trans (ChangedOnly.set _ _ _)) (pc_setPc _ _)).1

/-! ## Return -/

/-- The saved registers are loaded again from where they were saved, if the handler has left the
stack pointer where it found it. -/
theorem Serving.restore {console : Console} (serving : console.Serving 0x30)
    (awake : console.isStopped = false) {top : Word} (below : console.regs.get .sp = top - 24) :
    Moved [.pc, .sp, 0, 1, 2, 3, 12, .lr] 0x34 console console.tick ∧
      ∀ slot ∈ BootRom.savedSlots top,
        console.tick.regs.get slot.2 = console.bus.read32 slot.1 := by
  let moved := (console.regs.setPc 0x34).set .sp top
  let left := Arm.loadBlock false false (BootRom.savedSlots top) console.bus moved
  have notPc : ∀ r ∈ (BootRom.savedSlots top).map (·.2), r ≠ .pc := by
    rw [BootRom.savedSlots_registers]
    decide
  have once : ((BootRom.savedSlots top).map (·.2)).Nodup := by
    rw [BootRom.savedSlots_registers]
    decide
  have loads : moved.ChangedOnly [0, 1, 2, 3, 12, .lr] left := by
    rw [← BootRom.savedSlots_registers top]
    exact Arm.changedOnly_loadBlock notPc console.bus moved
  have changes : console.regs.ChangedOnly [.pc, .sp, 0, 1, 2, 3, 12, .lr] left :=
    ((ChangedOnly.set _ _ _).trans (ChangedOnly.set _ _ _)).trans loads
  have base : (console.regs.setPc 0x34).get .sp = top - 24 :=
    (get_set_of_ne _ (by decide) _).trans below
  have laidOut : Arm.Indexing.incrementAfter.block ((console.regs.setPc 0x34).get .sp) 0x500F =
      ⟨BootRom.savedSlots top, top⟩ := by
    rw [base]
    exact BootRom.block_restore top
  have spNotPc : RegNum.sp ≠ .pc := by decide
  have writesBack : Arm.Indexing.incrementAfter.writeBack = true := rfl
  have effect := Arm.blockTransfer_load (m := ⟨console.regs.setPc 0x34, console.bus⟩) spNotPc
    writesBack laidOut
  have reached : left.pc = 0x34 :=
    (loads.kept .pc (by decide)).trans
      ((get_set_of_ne _ (by decide) _).trans (get_set_self _ _ _))
  have decoded : Arm.decode 0xE8BD500F =
      ⟨.al, .blockTransfer true false .incrementAfter .sp 0x500F⟩ := by decide
  obtain ⟨onward, regs⟩ :=
    serving.moved awake (by decide) (by decide) decoded rfl effect changes reached
  refine ⟨onward, ?_⟩
  intro slot member
  rw [regs]
  exact Arm.get_loadBlock notPc once console.bus moved member

/-- The routine returns: the saved status comes back, and execution goes on four bytes before the
link register. -/
theorem Serving.resume {console : Console} (serving : console.Serving 0x34)
    (awake : console.isStopped = false) {status : Word}
    (saved : console.regs.savedStatus? .irq = some status) :
    console.tick.runState = .running ∧ console.tick.regs =
      ((console.regs.setPc 0x38).setCpsr status).branchTo (console.regs.get .lr - 4) := by
  have effect : (Arm.Instruction.dataProcessing .sub true .lr .pc (.immediate 4 0)).execute
      (console.machine.advance .arm) =
      ⟨((console.regs.setPc 0x38).setCpsr status).branchTo (console.regs.get .lr - 4),
        console.bus⟩ := by
    have link : Arm.read (console.regs.setPc 0x38) .lr = console.regs.get .lr :=
      (operand_of_ne _ (by decide) _).trans (get_set_of_ne _ (by decide) _)
    have status : (console.regs.setPc 0x38).spsr? = some status := by
      have irq : (console.regs.setPc 0x38).mode = .irq := serving.irq
      rw [spsr?, irq]
      exact saved
    rw [serving.advance (by decide)]
    refine congrArg (Machine.mk · console.bus) ?_
    change Arm.dataProcessing .sub true .lr .pc (.immediate 4 0) (console.regs.setPc 0x38) = _
    simp only [Arm.dataProcessing, Arm.Operand.shiftsByRegister, Arm.Opcode.isTest,
      Arm.Opcode.compute, Arm.Operand.evaluate, Adder.value_sub, link, restoreStatus, status,
      Bool.false_eq_true, ↓reduceIte]
  have ticked := serving.ticked awake (by decide) (by decide)
    (by decide : Arm.decode 0xE25EF004 = ⟨.al, .dataProcessing .sub true .lr .pc (.immediate 4 0)⟩)
    rfl (by rw [effect]; rfl)
  rw [effect] at ticked
  exact ⟨ticked.running, ticked.regs⟩

end Console

end Handheld
