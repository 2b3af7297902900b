import Handheld.Inspection.Session
import Handheld.Proofs.Console.Processor
import Handheld.Proofs.Memory.Backing
import Handheld.Proofs.Memory.KeyEvents

/-!
# What commands do and what a report says

Each command has one effect on the session that applies it (`Session.Obeys`): a request leaves it as
it is, a key event changes the key register and may request the keypad interrupt (`Console.KeySet`),
a pause sets the flag of the session, going on clears it and releases a stop of the debugger, and a
new image is started on a console that keeps its configuration, its breakpoints and what else was
set on its debugger (`Console.Restarted`). A report shows the registers, the debugger and the flag
as they are (`CpuDebugInfo.Describes`). Both are stated in terms of stored bits and bytes, so that
they say what the other side of an inspection can rely on.
-/

namespace Handheld

/-! ## Keys -/

/-- A key was pressed or released. Its bit of the key register is clear exactly while it is held,
and the keypad interrupt is requested if it was before or if the keys that are held now are what the
key control waits for. Nothing else of the console has changed. -/
structure Console.KeySet (before after : Console) (key : Key) (pressed : Bool) : Prop where
  held : after.io.keyInput.getLsbD key.index = !pressed
  otherKeys : ∀ i, i ≠ key.index →
    after.io.keyInput.getLsbD i = before.io.keyInput.getLsbD i
  keypad : after.io.interruptFlags.getLsbD 12 = true ↔
    before.io.interruptFlags.getLsbD 12 = true ∨
      KeypadMet (before.io.readHalf .keycnt) after.io.holds
  otherRequests : ∀ i, i ≠ 12 →
    after.io.interruptFlags.getLsbD i = before.io.interruptFlags.getLsbD i
  otherBytes : ∀ offset : IoOffset, offset.even ≠ .keyinput → offset.even ≠ .interruptFlags →
    after.io.readByte offset = before.io.readByte offset
  haltRequested : after.io.haltRequested = before.io.haltRequested
  rest : after = before.mapIo fun _ => after.io

/-- A key event is shown by the bit of its key and may request the keypad interrupt, as is known of
sequences of events, of which it is one. -/
theorem Console.keySet_setKey (console : Console) (key : Key) (pressed : Bool) :
    console.KeySet (console.setKey key pressed) key pressed where
  held := by
    change (console.io.setKey key pressed).keyInput.getLsbD key.index = _
    rw [IoRegisters.getLsbD_keyInput_setKey, if_pos rfl]
  otherKeys i other := by
    change (console.io.setKey key pressed).keyInput.getLsbD i = _
    rw [IoRegisters.getLsbD_keyInput_setKey, if_neg other]
  keypad := by
    change (console.io.setKey key pressed).interruptFlags.getLsbD Interrupt.keypad.index = true ↔ _
    rw [IoRegisters.getLsbD_interruptFlags_setKey, decide_eq_true rfl, Bool.and_true,
      Bool.or_eq_true, IoRegisters.keypadCondition_iff, IoRegisters.keycnt_setKey]
    rfl
  otherRequests i other := by
    have notKeypad : i ≠ Interrupt.keypad.index := other
    change (console.io.setKey key pressed).interruptFlags.getLsbD i = _
    rw [IoRegisters.getLsbD_interruptFlags_setKey, decide_eq_false notKeypad, Bool.and_false,
      Bool.or_false]
  otherBytes offset notKeys notRequests :=
    IoRegisters.readByte_of_readHalf
      (IoRegisters.readHalf_setKey_of_ne _ key pressed notKeys notRequests)
  haltRequested := haltRequested_setKey console.io key pressed
  rest := rfl

/-! ## Starting again -/

/-- The registers with which a cartridge is entered: `r15` at its start in ARM state and System
mode, a stack for programs, for interrupts and for the supervisor, and zero everywhere else but in
the link register of programs. -/
structure RegisterFile.AtCartridge (regs : RegisterFile) : Prop where
  pc : regs.pc = 0x08000000
  cpsr : regs.cpsr = 0x1F
  programStack : regs.banked .system .sp = 0x03007F00 ∧ regs.banked .user .sp = 0x03007F00
  irqStack : regs.banked .irq .sp = 0x03007FA0
  supervisorStack : regs.banked .supervisor .sp = 0x03007FE0
  otherStacks : ∀ mode ∈ [Mode.fiq, .abort, .undefined], regs.banked mode .sp = 0
  programLink : regs.banked .system .lr = 0x08000000 ∧ regs.banked .user .lr = 0x08000000
  otherLinks : ∀ mode ∈ [Mode.fiq, .irq, .supervisor, .abort, .undefined],
    regs.banked mode .lr = 0
  general : ∀ (mode : Mode) (r : RegNum), r.val < 13 → regs.banked mode r = 0
  saved : ∀ (mode : Mode) (status : Word), regs.savedStatus? mode = some status → status = 0

/-- The registers that a start without the boot ROM sets up are those of a program at the beginning
of the Game Pak. -/
theorem Console.atCartridge_bootedRegisters :
    (bootedRegisters .powerOn).AtCartridge where
  pc := by decide +kernel
  cpsr := by decide +kernel
  programStack := by decide +kernel
  irqStack := by decide +kernel
  supervisorStack := by decide +kernel
  otherStacks := by decide +kernel
  programLink := by decide +kernel
  otherLinks := by decide +kernel
  general mode := by cases mode <;> decide +kernel
  saved mode status := by
    have cleared : (bootedRegisters .powerOn).savedStatus? mode = none ∨
        (bootedRegisters .powerOn).savedStatus? mode = some 0 := by
      cases mode <;> decide +kernel
    rcases cleared with none | zero
    · rw [none]
      exact nofun
    · rw [zero]
      exact fun same => (Option.some.inj same).symm

/-- A debugger after a new start: what was set on it is there, and what it has seen is not. -/
structure Debugger.Restarted (before after : Debugger) : Prop where
  breakpoints : ∀ set, after.breakpoints set = before.breakpoints set
  enabled : after.enabled = before.enabled
  capacity : after.history.capacity = before.history.capacity
  history : after.history.toList = []
  stopped : after.stopped = false
  executingPc : after.executingPc = 0x08000000
  lastPc : after.lastPc = 0

/-- A console was started again with an image, as much of it as fits, and stands where the boot ROM
enters a cartridge. Only its configuration and what was set on its debugger are left. -/
structure Console.Restarted (before after : Console) (image : Array Byte) : Prop where
  gamePakSize : after.bus.gamePak.size = min image.size 0x2000000
  gamePak : ∀ i < 0x2000000, after.bus.gamePak[i]? = image[i]?
  memory : after.bus = { Bus.powerOn with gamePak := after.bus.gamePak }
  regs : after.regs.AtCartridge
  runState : after.runState = .running
  clock : after.clock = ⟨0, 0, 0⟩
  retired : after.retired = 0
  config : after.config = before.config
  debugger : before.debugger.Restarted after.debugger

/-- What loading an image does, from switching off and on to entering the cartridge. Of the console
before, only what was set on it is left. -/
theorem Console.restarted_loadRom (console : Console) (image : Array Byte) :
    console.Restarted (console.reset.loadRom image).skipBios image where
  gamePakSize := by
    change (image.take gamePakCapacity).size = _
    rw [Array.take_eq_extract, Array.size_extract, Nat.sub_zero, Nat.min_comm]
    rfl
  gamePak i inside := getElem?_take_gamePakCapacity image inside
  memory := rfl
  regs := atCartridge_bootedRegisters
  runState := rfl
  clock := rfl
  retired := rfl
  config := rfl
  debugger :=
    { breakpoints := fun set => by cases set <;> rfl
      enabled := rfl
      capacity := rfl
      history := rfl
      stopped := rfl
      executingPc := rfl
      lastPc := rfl }

/-! ## Commands -/

namespace Session

/-- What a command does to the session that applies it. -/
def Obeys (before after : Session) : Command → Prop
  | .requestScreenDraw | .requestCpuDebugInfo => after = before
  | .setKey key pressed =>
    before.console.KeySet after.console key pressed ∧ after.paused = before.paused ∧
      after.config = before.config
  | .setPause paused =>
    after.paused = paused ∧ after.config = before.config ∧
      after.console.debugger.stopped = (paused && before.console.debugger.stopped) ∧
      after.console = { before.console with
        debugger := { before.console.debugger with stopped := after.console.debugger.stopped } }
  | .loadRom image =>
    before.console.Restarted after.console image ∧ after.paused = before.paused ∧
      after.config = before.config

/-- Every command does what it should, whatever the state of the session. -/
theorem obeys_obey (session : Session) (command : Command) :
    session.Obeys (session.obey command) command := by
  cases command with
  | requestScreenDraw | requestCpuDebugInfo => exact rfl
  | setKey key pressed => exact ⟨session.console.keySet_setKey key pressed, rfl, rfl⟩
  | setPause paused => cases paused <;> exact ⟨rfl, rfl, rfl, rfl⟩
  | loadRom image => exact ⟨session.console.restarted_loadRom image, rfl, rfl⟩

end Session

/-! ## Reports -/

/-- The Thumb bit is bit 5 of the status. -/
theorem RegisterFile.thumb_eq_getLsbD (regs : RegisterFile) :
    regs.thumb = regs.cpsr.getLsbD 5 := by
  have single : Status.thumb = BitVec.twoPow 32 5 := rfl
  rw [thumb, flag, single, BitVec.and_twoPow]
  cases regs.cpsr.getLsbD 5 <;> rfl

/-- What is said of a processor is true of it: the registers of the current mode, the status of that
mode and the one saved in it, the two interrupt registers as they are stored, and whether the
processor waits. -/
structure Console.CpuSnapshot.Describes (snapshot : CpuSnapshot) (console : Console) : Prop where
  registers : ∀ r : RegNum,
    snapshot.registers.get r = console.regs.banked snapshot.mode r
  pc : snapshot.pc = snapshot.registers.get RegNum.pc
  cpsr : snapshot.cpsr = console.regs.cpsr
  spsr? : snapshot.spsr? = console.regs.savedStatus? snapshot.mode
  mode : snapshot.mode = (Mode.ofBits? (snapshot.cpsr.extractLsb' 0 5)).getD .system
  thumb : snapshot.thumb = snapshot.cpsr.getLsbD 5
  halted : snapshot.halted = true ↔ console.runState = .halted
  interruptEnable : snapshot.interruptEnable =
    Half.ofBytes (console.io.readByte 0x200) (console.io.readByte 0x201)
  interruptFlags : snapshot.interruptFlags =
    Half.ofBytes (console.io.readByte 0x202) (console.io.readByte 0x203)
  retired : snapshot.retired = console.retired

/-- A report is true of a session: of its processor, of the addresses that its debugger has noted,
of what holds it, and of its keys. -/
structure CpuDebugInfo.Describes (info : CpuDebugInfo) (session : Session) : Prop where
  cpu : info.cpu.Describes session.console
  pc : info.pc = info.cpu.pc
  executingPc : info.executingPc = session.console.debugger.executingPc
  lastPc : info.lastPc = session.console.debugger.lastPc
  thumb : info.thumb = info.cpu.thumb
  stopped : info.stopped = session.console.debugger.stopped
  paused : info.paused = session.paused
  keyInput : info.keyInput =
    Half.ofBytes (session.console.io.readByte 0x130) (session.console.io.readByte 0x131)

/-- A look at the processor shows its registers, its status and its flags, and the two registers
that decide on interrupts. -/
theorem Console.describes_inspectCpu (console : Console) :
    console.inspectCpu.Describes console where
  registers r := (console.regs.banked_mode r).symm
  pc := rfl
  cpsr := rfl
  spsr? := rfl
  mode := rfl
  thumb := console.regs.thumb_eq_getLsbD
  halted := beq_iff_eq
  interruptEnable := rfl
  interruptFlags := rfl
  retired := rfl

/-- A report is true of the session it is made of, each record field by what it is said to hold. -/
theorem CpuDebugInfo.describes_of (session : Session) :
    (CpuDebugInfo.of session.console session.paused).Describes session where
  cpu := session.console.describes_inspectCpu
  pc := rfl
  executingPc := rfl
  lastPc := rfl
  thumb := rfl
  stopped := rfl
  paused := rfl
  keyInput := rfl

end Handheld
