import Handheld.Proofs.Console.Debugging
import Handheld.Proofs.Console.ReadOnlyMemory
import Handheld.Proofs.Console.Tick
import Handheld.Proofs.Video.Position

/-!
# The start of the console

From power-on the boot ROM executes fourteen instructions, which work on registers alone, and
enters the cartridge. `BootRom.stage` lists the registers after each of them
(`BootRom.executes_stage`); the last stage is what `skipBios` leaves behind (`BootRom.stage_last`).
The fourteen ticks end in the first line of the picture, before the clock does anything, so of the
console only the registers and the debugger move on (`Console.Booting`). Key events may come at any
time: they change the same registers of the peripherals on both ways (`Console.run_keys`).
`Console.boot_agrees_with_skipBios` puts the two ways side by side.
-/

namespace Handheld

/-- What an instruction does to the registers, if it does nothing else. -/
def Arm.Instruction.onRegisters? : Instruction → Option (RegisterFile → RegisterFile)
  | .dataProcessing opcode setFlags rn rd operand =>
    some (Arm.dataProcessing opcode setFlags rn rd operand)
  | mrs saved rd => some (readStatus saved rd)
  | msr saved fields operand => some (writeStatus saved fields operand)
  | .multiply accumulate setFlags rd rn rs rm =>
    some (Arm.multiply accumulate setFlags rd rn rs rm)
  | .multiplyLong signed accumulate setFlags rdHigh rdLow rs rm =>
    some (Arm.multiplyLong signed accumulate setFlags rdHigh rdLow rs rm)
  | .branchExchange rm => some (Arm.branchExchange rm)
  | .branch link offset => some (Arm.branch link offset)
  | .swap .. | .halfwordTransfer .. | .singleTransfer .. | .blockTransfer ..
  | softwareInterrupt _ | coprocessor _ | undefined => none

namespace Arm.Instruction

variable {instruction : Instruction} {f : RegisterFile → RegisterFile}

/-- An instruction that works on registers alone does what its function says. -/
theorem execute_of_onRegisters? (onRegisters : instruction.onRegisters? = some f) (m : Machine) :
    instruction.execute m = m.mapRegs f := by
  cases instruction <;> cases onRegisters <;> rfl

/-- Such an instruction does not trap. -/
theorem trap?_of_onRegisters? (onRegisters : instruction.onRegisters? = some f) :
    instruction.trap? = none := by
  cases instruction <;> cases onRegisters <;> rfl

end Arm.Instruction

namespace BootRom

/-! ## The registers instruction by instruction -/

/-- The registers during the start: zero but for the status, `r15`, the stack pointer and the link
register of the current mode, and the stack pointers of interrupts and of the supervisor while they
are not current. -/
def registers (cpsr pc sp lr irqSp supervisorSp : Word) : RegisterFile where
  visible := #v[0, 0, 0, 0, 0, 0, 0, 0, 0, 0, 0, 0, 0, sp, lr, pc]
  sharedHigh := #v[0, 0, 0, 0, 0]
  fiqHigh := #v[0, 0, 0, 0, 0]
  stackLinks := #v[⟨0, 0⟩, ⟨0, 0⟩, ⟨irqSp, 0⟩, ⟨supervisorSp, 0⟩, ⟨0, 0⟩, ⟨0, 0⟩]
  saved := #v[0, 0, 0, 0, 0]
  cpsr

/-- The registers at power-on and after each instruction. -/
def stages : List RegisterFile :=
  [ registers 0xD3 0x00 0 0 0 0,
    registers 0xD3 0x38 0 0 0 0,
    -- the stack of interrupts
    registers 0xD2 0x3C 0 0 0 0,
    registers 0xD2 0x40 0x03000000 0 0 0,
    registers 0xD2 0x44 0x03007F00 0 0 0,
    registers 0xD2 0x48 0x03007FA0 0 0 0,
    -- the stack of the supervisor
    registers 0xD3 0x4C 0 0 0x03007FA0 0,
    registers 0xD3 0x50 0x03000000 0 0x03007FA0 0,
    registers 0xD3 0x54 0x03007F00 0 0x03007FA0 0,
    registers 0xD3 0x58 0x03007FE0 0 0x03007FA0 0,
    -- the stack of programs
    registers 0x1F 0x5C 0 0 0x03007FA0 0x03007FE0,
    registers 0x1F 0x60 0x03000000 0 0x03007FA0 0x03007FE0,
    registers 0x1F 0x64 0x03007F00 0 0x03007FA0 0x03007FE0,
    -- the cartridge
    registers 0x1F 0x68 0x03007F00 0x08000000 0x03007FA0 0x03007FE0,
    registers 0x1F 0x08000000 0x03007F00 0x08000000 0x03007FA0 0x03007FE0]

def stage (count : Nat) : RegisterFile := stages.getD count .powerOn

/-- Whether the instruction of the boot program at `r15` makes `next` of the registers and does
nothing else. -/
def Executes (regs next : RegisterFile) : Prop :=
  regs.pc.toNat < 0x4000 ∧ regs.pc.toNat % 4 = 0 ∧ regs.thumb = false ∧
    let decoded := Arm.decode (program[regs.pc.toNat / 4]?.getD 0)
    decoded.condition = .al ∧
      decoded.instruction.onRegisters?.map (· (regs.setPc (regs.pc + 4))) = some next

instance (regs next : RegisterFile) : Decidable (Executes regs next) :=
  inferInstanceAs (Decidable (_ ∧ _ ∧ _ ∧ _ ∧ _))

/-- The first stage are the registers at power-on. -/
theorem stage_zero : stage 0 = .powerOn := by decide +kernel

/-- Each instruction leads from its stage to the next. -/
theorem executes_stage :
    ∀ count < instructionCount, Executes (stage count) (stage (count + 1)) := by
  decide +kernel

/-- In the end the registers are those of a start without the boot ROM. -/
theorem stage_last : stage instructionCount = Console.bootedRegisters .powerOn := by
  decide +kernel

end BootRom

namespace Console

/-! ## One tick -/

/-- What the start needs of the bus: the boot ROM, and no way to be interrupted. -/
structure Quiet (bus : Bus) : Prop where
  boot : bus.bios = BootRom.image
  noHaltRequest : bus.io.haltRequested = false
  masterDisabled : bus.io.masterEnable = false

/-- With the master enable off no interrupt is taken. -/
theorem Quiet.untaken {machine : Machine} (quiet : Quiet machine.bus) :
    takesInterrupt machine = false := by
  rw [takesInterrupt, quiet.masterDisabled, Bool.and_false, Bool.false_and]

/-- A tick that ends before the horizontal blank leaves the peripherals as the processor does. The
fourteen ticks of the start are all that early. -/
theorem bus_tick_of_early {console : Console} {machine : Machine}
    (awake : console.isStopped = false) (running : console.runState = .running)
    (executed : (execute console.machine).2 = machine)
    (noHaltRequest : machine.bus.io.haltRequested = false)
    (early : console.clock.cycle + 4 < Clock.hBlankCycle) :
    console.tick.bus = machine.bus ∧ console.tick.clock.cycle ≤ console.clock.cycle + 4 := by
  have ticked : console.tick = console.stepRunning.2 :=
    tick_eq_stepRunning awake (by rw [running]; rfl)
  have cost := cycles_execute_le console.machine
  have cleared : machine.bus.io.clearHaltRequest = machine.bus.io := by
    rw [IoRegisters.clearHaltRequest, ← noHaltRequest]
  have before :
      console.clock.cycle + (execute console.machine).1.cycles < console.clock.boundary := by
    rw [Clock.boundary, if_pos (by omega)]
    omega
  have scan : console.clock.advance machine.bus.io.clearHaltRequest
      (execute console.machine).1.cycles =
        ⟨{ console.clock with cycle := console.clock.cycle + (execute console.machine).1.cycles },
          machine.bus.io, false⟩ := by
    rw [cleared]
    exact Scan.run_of_lt_boundary before
  have bus : console.tick.bus = { machine.bus with
      io := (console.clock.advance machine.bus.io.clearHaltRequest
        (execute console.machine).1.cycles).io } := by
    rw [ticked, ← executed]
    rfl
  have clock : console.tick.clock = (console.clock.advance machine.bus.io.clearHaltRequest
      (execute console.machine).1.cycles).clock := by
    rw [ticked, ← executed]
    rfl
  rw [bus, clock, scan]
  exact ⟨rfl, Nat.add_le_add_left cost _⟩

/-- A console that has `count` instructions of the start behind it, beside one that has had the same
key events and no tick. -/
structure Booting (idle console : Console) (count : Nat) : Prop where
  regs : console.regs = BootRom.stage count
  bus : console.bus = idle.bus
  running : console.runState = .running
  early : console.clock.cycle ≤ 4 * count
  going : count < BootRom.instructionCount → console.isStopped = false
  /-- No breakpoint is in the boot ROM. -/
  unwatched : ∀ set address, address ∈ console.debugger.breakpoints set →
    Region.ofAddress address ≠ .bios

namespace Booting

variable {idle console : Console} {count : Nat}

/-- The processor leads from one stage to the next: it fetches a word of the boot ROM, takes no
interrupt, and changes registers only. -/
theorem execute_eq (booting : Booting idle console count) (quiet : Quiet idle.bus)
    (more : count < BootRom.instructionCount) :
    (execute console.machine).2 = ⟨BootRom.stage (count + 1), console.bus⟩ := by
  obtain ⟨inRom, aligned, arm, always, executes⟩ := BootRom.executes_stage count more
  obtain ⟨f, onRegisters, next⟩ := Option.map_eq_some_iff.mp executes
  have regs : console.machine.regs = BootRom.stage count := booting.regs
  have quiet : Quiet console.machine.bus := by
    have same : console.machine.bus = idle.bus := booting.bus
    rwa [same]
  have pc : console.machine.regs.pc = (BootRom.stage count).pc := congrArg RegisterFile.pc regs
  have fetched := Machine.fetchWord_bios quiet.boot pc inRom aligned
  rw [← fetched] at always onRegisters
  have decoded : Arm.decode console.machine.fetchWord =
      ⟨.al, (Arm.decode console.machine.fetchWord).instruction⟩ := by
    rw [← always]
  rw [execute, quiet.untaken, if_neg Bool.false_ne_true,
    Machine.step_of_decode (by rw [regs, arm]) decoded
      (Arm.Instruction.trap?_of_onRegisters? onRegisters)]
  dsimp only
  rw [Arm.Instruction.execute_of_onRegisters? onRegisters, Machine.advance_of_aligned pc aligned,
    regs]
  exact congrArg (Machine.mk · console.bus) next

/-- A tick executes one more instruction of the start. It is over long before the first horizontal
blank, so the peripherals do nothing. -/
theorem tick (booting : Booting idle console count) (quiet : Quiet idle.bus)
    (more : count < BootRom.instructionCount) : Booting idle console.tick (count + 1) := by
  have executed := booting.execute_eq quiet more
  have awake := booting.going more
  have noHaltRequest : console.bus.io.haltRequested = false := by
    rw [booting.bus, quiet.noHaltRequest]
  have ticked := ticked_of_execute awake (by rw [booting.running]; rfl) executed noHaltRequest
  have early : console.clock.cycle + 4 < Clock.hBlankCycle := by
    have cycle := booting.early
    have last : BootRom.instructionCount = 14 := rfl
    have blank : Clock.hBlankCycle = 960 := rfl
    omega
  obtain ⟨bus, clock⟩ := bus_tick_of_early awake booting.running executed noHaltRequest early
  refine ⟨ticked.regs, bus.trans booting.bus, ticked.running, ?_, fun more => ?_, ?_⟩
  · have cycle := booting.early
    omega
  · obtain ⟨committed?, follows⟩ := ticked.debugger
    obtain ⟨inRom, -⟩ := BootRom.executes_stage (count + 1) more
    have inBios := (Region.ofAddress_eq_iff _ .bios).mpr inRom
    show console.tick.debugger.stopped = false
    rw [follows, Debugger.stopped_afterTick]
    have clear : (console.debugger.breakpoints (BootRom.stage (count + 1)).instructionSet).contains
        (BootRom.stage (count + 1)).pc = false :=
      Bool.eq_false_iff.mpr fun found =>
        booting.unwatched _ _ (Breakpoints.contains_iff.mp found) inBios
    rw [clear, Bool.and_false, Bool.or_false]
    exact awake
  · intro set address
    rw [console.breakpoints_tick]
    exact booting.unwatched set address

/-- So the start goes on, one instruction a tick, to its end. By induction on the ticks, as long as
there are instructions left. -/
theorem tickMultiple (booting : Booting idle console count) (quiet : Quiet idle.bus) {more : Nat}
    (enough : count + more ≤ BootRom.instructionCount) :
    Booting idle (console.tickMultiple more) (count + more) := by
  induction more generalizing console count with
  | zero => exact booting
  | succ more ih =>
      have next := ih (booting.tick quiet (by omega)) (by omega)
      rw [Nat.add_right_comm] at next
      rwa [tickMultiple_succ]

end Booting

/-! ## Key events -/

def Operation.isKey : Operation → Bool
  | setKey .. => true
  | _ => false

/-- The ticks that an operation asks for; none if it is of another kind. -/
def Operation.ticks? : Operation → Option Nat
  | step | tick => some 1
  | tickMultiple count => some count
  | _ => none

/-- An operation that is a number of ticks is so many ticks, whether it asks for a single one or for
several. -/
theorem Operation.apply_of_ticks? {operation : Operation} {count : Nat}
    (ticks : operation.ticks? = some count) (console : Console) :
    operation.apply console = console.tickMultiple count := by
  cases operation <;> cases ticks
  case step | tick => exact (console.tickMultiple_succ 0).symm
  case tickMultiple => rfl

/-- Key events change the registers of the peripherals, always in the same way, whatever else the
console is like. So they can be done before or after other things. -/
theorem run_keys (operations : List Operation) (keys : ∀ operation ∈ operations, operation.isKey) :
    ∃ f : IoRegisters → IoRegisters,
      ∀ console : Console, console.run operations = console.mapIo f := by
  induction operations with
  | nil => exact ⟨id, fun _ => rfl⟩
  | cons first rest ih =>
      rw [List.forall_mem_cons] at keys
      obtain ⟨f, later⟩ := ih keys.2
      cases first with
      | setKey key pressed =>
          exact ⟨fun io => f (io.setKey key pressed),
            fun console => later (console.setKey key pressed)⟩
      | _ => cases keys.1

/-- A key event can request an interrupt, but not enable it, so the start is as quiet as before. -/
theorem Quiet.setKey {console : Console} (quiet : Quiet console.bus) (key : Key) (pressed : Bool) :
    Quiet (console.setKey key pressed).bus where
  boot := quiet.boot
  noHaltRequest := (haltRequested_setKey _ key pressed).trans quiet.noHaltRequest
  masterDisabled := by
    have same : (console.io.setKey key pressed).readHalf .masterEnable =
        console.io.readHalf .masterEnable :=
      console.io.readHalf_setKey_of_ne key pressed (by decide) (by decide)
    exact (congrArg (BitVec.getLsbD · 0) same).trans quiet.masterDisabled

namespace Booting

variable {idle console : Console} {count : Nat}

/-- A key event between two ticks of the start reaches both consoles alike, since it looks at the
peripherals only and these are the same. -/
theorem setKey (booting : Booting idle console count) (key : Key) (pressed : Bool) :
    Booting (idle.setKey key pressed) (console.setKey key pressed) count where
  regs := booting.regs
  bus := by
    show { console.bus with io := console.bus.io.setKey key pressed } =
      { idle.bus with io := idle.bus.io.setKey key pressed }
    rw [booting.bus]
  running := booting.running
  early := booting.early
  going := booting.going
  unwatched := booting.unwatched

/-- A breakpoint is set on both consoles, and outside of the boot ROM it does not stop the start
before it has come to its end. -/
theorem addBreakpoint (booting : Booting idle console count) {set : InstructionSet} {address : Word}
    (outside : Region.ofAddress address ≠ .bios) :
    Booting (idle.addBreakpoint set address) (console.addBreakpoint set address) count where
  regs := booting.regs
  bus := booting.bus
  running := booting.running
  early := booting.early
  going := by
    cases set <;> exact booting.going
  unwatched := by
    intro other found member
    have changed := breakpoints_apply (.addBreakpoint set address) console other
    rw [show (console.addBreakpoint set address).debugger.breakpoints other = _ from changed,
      mem_breakpoints] at member
    rcases member with added | ⟨-, before⟩
    · rw [Operation.adds?] at added
      split at added
      · rename_i here
        rwa [← here.2]
      · cases added
    · exact booting.unwatched other found before

/-- Ticks and key events in any order lead on by the number of the ticks, beside a console that has
had the key events alone. By induction on the operations. -/
theorem run (booting : Booting idle console count) (quiet : Quiet idle.bus)
    {operations : List Operation}
    (kinds : ∀ operation ∈ operations, operation.isKey = true ∨ operation.ticks?.isSome = true)
    (enough : count + (operations.filterMap Operation.ticks?).sum ≤ BootRom.instructionCount) :
    Booting (idle.run (operations.filter Operation.isKey)) (console.run operations)
      (count + (operations.filterMap Operation.ticks?).sum) := by
  induction operations generalizing idle console count with
  | nil => exact booting
  | cons first rest ih =>
      rw [List.forall_mem_cons] at kinds
      cases ticks : first.ticks? with
      | some more =>
          have notKey : first.isKey = false := by
            cases first <;> first | rfl | cases ticks
          have total : ((first :: rest).filterMap Operation.ticks?).sum =
              more + (rest.filterMap Operation.ticks?).sum := by
            rw [List.filterMap_cons_some ticks, List.sum_cons]
          rw [total] at enough ⊢
          rw [List.filter_cons_of_neg (by rw [notKey]; exact Bool.false_ne_true), run_cons,
            Operation.apply_of_ticks? ticks, ← Nat.add_assoc]
          exact ih (booting.tickMultiple quiet (by omega)) quiet kinds.2 (by omega)
      | none =>
          cases first with
          | setKey key pressed =>
              exact ih (booting.setKey key pressed) (quiet.setKey key pressed) kinds.2 enough
          | _ => rcases kinds.1 with key | tick <;> contradiction

end Booting

/-- A console that was just switched on has nothing of the start behind it, with any image in its
Game Pak. -/
theorem booting_powerOn (config : ConsoleConfig) (image : Array Byte) :
    Booting ((powerOn config).loadRom image) ((powerOn config).loadRom image) 0 where
  regs := BootRom.stage_zero.symm
  bus := rfl
  running := rfl
  early := Nat.zero_le _
  going _ := rfl
  unwatched := by
    intro set address member
    cases set <;> exact absurd member List.not_mem_nil

/-- It has the boot ROM, and its interrupts are disabled. -/
theorem quiet_powerOn (config : ConsoleConfig) (image : Array Byte) :
    Quiet ((powerOn config).loadRom image).bus where
  boot := rfl
  noHaltRequest := rfl
  masterDisabled := by
    show IoRegisters.powerOn.masterEnable = false
    decide +kernel

/-- A console at power-on with an image in its game pak and some breakpoints. -/
def prepared (config : ConsoleConfig) (image : Array Byte)
    (breakpoints : List (InstructionSet × Word)) : Console :=
  (powerOn config).run (.loadRom image ::
    breakpoints.map fun breakpoint => .addBreakpoint breakpoint.1 breakpoint.2)

/-- Breakpoints outside the boot ROM do not get in the way of the start, however many there are. By
induction on their list. -/
theorem booting_addBreakpoints {console : Console} (booting : Booting console console 0)
    (quiet : Quiet console.bus) {breakpoints : List (InstructionSet × Word)}
    (outside : ∀ breakpoint ∈ breakpoints, Region.ofAddress breakpoint.2 ≠ .bios) :
    let start := console.run (breakpoints.map fun breakpoint =>
      .addBreakpoint breakpoint.1 breakpoint.2)
    Booting start start 0 ∧ Quiet start.bus := by
  induction breakpoints generalizing console with
  | nil => exact ⟨booting, quiet⟩
  | cons first rest ih =>
      rw [List.forall_mem_cons] at outside
      exact ih (booting.addBreakpoint outside.1) quiet outside.2

/-- Starting through the boot ROM and starting without it come to the same: with any configuration,
any image in the game pak, any breakpoints outside the boot ROM, and key events at any time,
fourteen ticks from power-on leave the registers of every mode, the memory, the peripherals, the
state of the processor and the address of the next instruction as `skipBios` does. -/
theorem boot_agrees_with_skipBios (config : ConsoleConfig) (image : Array Byte)
    (breakpoints : List (InstructionSet × Word)) (operations earlier later : List Operation)
    (outside : ∀ breakpoint ∈ breakpoints, Region.ofAddress breakpoint.2 ≠ .bios)
    (kinds : ∀ operation ∈ operations, operation.isKey = true ∨ operation.ticks?.isSome = true)
    (ticks : (operations.filterMap Operation.ticks?).sum = 14)
    (keys : operations.filter Operation.isKey = earlier ++ later) :
    let start := prepared config image breakpoints
    let booted := start.run operations
    let skipped := start.run (earlier ++ .skipBios :: later)
    booted.regs = skipped.regs ∧ booted.bus = skipped.bus ∧
      booted.runState = skipped.runState ∧
        booted.debugger.executingPc = skipped.debugger.executingPc := by
  intro start booted skipped
  obtain ⟨booting, quiet⟩ :=
    booting_addBreakpoints (booting_powerOn config image) (quiet_powerOn config image) outside
  have powerOn : start.regs = .powerOn := booting.regs.trans BootRom.stage_zero
  -- The ticks change the bus no more than `skipBios` does, so in both runs it is what the keys make
  -- of it.
  have through : Booting (start.run (earlier ++ later)) booted BootRom.instructionCount := by
    have run := booting.run quiet kinds (by rw [ticks]; decide)
    rw [ticks, keys] at run
    exact run
  have onlyKeys : ∀ operation ∈ earlier ++ later, operation.isKey := by
    rw [← keys]
    exact fun operation member => (List.mem_filter.mp member).2
  obtain ⟨before, pressedBefore⟩ := run_keys earlier fun operation member =>
    onlyKeys operation (List.mem_append_left _ member)
  obtain ⟨after, pressedAfter⟩ := run_keys later fun operation member =>
    onlyKeys operation (List.mem_append_right _ member)
  have skip : skipped = ((start.mapIo before).skipBios).mapIo after := by
    rw [← pressedBefore, ← pressedAfter]
    exact run_append _ _ _
  have idle : start.run (earlier ++ later) = (start.mapIo before).mapIo after := by
    rw [run_append, pressedBefore, pressedAfter]
  have regs : booted.regs = bootedRegisters .powerOn := through.regs.trans BootRom.stage_last
  have skippedRegs : skipped.regs = bootedRegisters .powerOn := by
    rw [skip, ← powerOn]
    rfl
  have startReachable : start.Reachable := ⟨config, _, rfl⟩
  have executing : booted.debugger.executingPc = booted.regs.pc :=
    (consistent_reachable (startReachable.run operations)).executingPc
  have skippedExecuting : skipped.debugger.executingPc = skipped.regs.pc :=
    (consistent_reachable (startReachable.run _)).executingPc
  refine ⟨regs.trans skippedRegs.symm, ?_, ?_, ?_⟩
  · rw [through.bus, idle, skip]
    rfl
  · rw [through.running, skip]
    rfl
  · rw [executing, skippedExecuting, regs, skippedRegs]

/-- Fourteen ticks, and key events before, among and after them. -/
def ticksAndKeys : List Operation :=
  [.setKey .start true, .tick, .tickMultiple 5, .setKey .a true, .tickMultiple 7, .step,
    .setKey .start false]

/-- A start with key events between its ticks, and with a breakpoint where the cartridge begins,
ends as one that skips the boot ROM. -/
theorem boot_with_keys_agrees :
    let start := prepared .default #[0xFE, 0xFF, 0xFF, 0xEA] [(.arm, 0x08000000)]
    let booted := start.run ticksAndKeys
    let skipped := start.run
      ([.setKey .start true, .setKey .a true] ++ .skipBios :: [.setKey .start false])
    booted.regs = skipped.regs ∧ booted.bus = skipped.bus ∧
      booted.runState = skipped.runState ∧
        booted.debugger.executingPc = skipped.debugger.executingPc := by
  have outside : ∀ breakpoint ∈ ([(.arm, 0x08000000)] : List (InstructionSet × Word)),
      Region.ofAddress breakpoint.2 ≠ .bios := by decide
  have kinds : ∀ operation ∈ ticksAndKeys,
      operation.isKey = true ∨ operation.ticks?.isSome = true := by decide
  have ticks : (ticksAndKeys.filterMap Operation.ticks?).sum = 14 := by decide
  have keys : ticksAndKeys.filter Operation.isKey =
      [.setKey .start true, .setKey .a true] ++ [.setKey .start false] := rfl
  exact boot_agrees_with_skipBios .default #[0xFE, 0xFF, 0xFF, 0xEA] _ ticksAndKeys _ _ outside
    kinds ticks keys

end Console

end Handheld
