import Mathlib.Data.List.Induction
import Handheld.Proofs.Console.Processor
import Handheld.Proofs.Video.Registers

/-!
# Registers that belong to the hardware

A tick changes the peripheral registers by what the program writes and then by the clock
(`Console.elapsed_tick`). Programs do not reach what belongs to the hardware, so between two ticks
the line counter and the status show the clock and only known interrupts are requested
(`Console.showsHardware_reachable`), and the key register shows the last event of every key
(`Console.showsKeys_run`). `Console.hardware_registers_intact` puts these together.
-/

namespace Handheld.Console

/-! ## Ticks -/

/-- The clock and the peripheral registers of `after` come from those of `before` by writes of the
program and then by the clock. -/
def Elapsed (before after : Console) : Prop :=
  ∃ io cycles, before.io.SameHardwareState io ∧
    after.clock = (before.clock.advance io cycles).clock ∧
    after.io = (before.clock.advance io cycles).io

/-- A tick that executes lets time pass after an instruction, and this changes no hardware state. -/
theorem elapsed_stepRunning (console : Console) : Elapsed console console.stepRunning.2 :=
  ⟨(execute console.machine).2.bus.io.clearHaltRequest, (execute console.machine).1.cycles,
    (written_executeTick console.machine).sameHardwareState.trans (.of_bytes rfl), rfl, rfl⟩

/-- A tick of a processor that sleeps lets time pass and does nothing else. -/
theorem elapsed_stepHalted (console : Console) : Elapsed console console.stepHalted.2 :=
  ⟨console.io, haltedCycles, .refl _, rfl, rfl⟩

/-- A tick does nothing, or moves the clock on after what the program did. -/
theorem elapsed_tick (console : Console) :
    console.tick = console ∨ Elapsed console console.tick := by
  unfold tick step
  split
  · exact .inl rfl
  · split
    · exact .inr console.elapsed_stepHalted
    · exact .inr console.elapsed_stepRunning

/-! ## The clock and the requests -/

/-- The registers show the clock and request known interrupts only. -/
structure ShowsHardware (console : Console) : Prop where
  clock : console.clock.ShownBy console.io
  requests : console.io.KnownRequests

/-- As time passes, the registers go on showing the clock, whatever the program wrote before. -/
theorem ShowsHardware.elapsed {before after : Console} (shows : before.ShowsHardware)
    (elapsed : Elapsed before after) : after.ShowsHardware := by
  obtain ⟨io, cycles, same, clock, registers⟩ := elapsed
  refine ⟨?_, ?_⟩
  · rw [clock, registers]
    exact (shows.clock.of_sameHardwareState same).advance cycles
  · rw [registers]
    exact (shows.requests.of_same same).advance before.clock cycles

/-- So a tick keeps the registers showing the hardware. -/
theorem ShowsHardware.tick {console : Console} (shows : console.ShowsHardware) :
    console.tick.ShowsHardware := by
  rcases console.elapsed_tick with same | elapsed
  · rw [same]
    exact shows
  · exact shows.elapsed elapsed

/-- A key event does not touch what shows the clock. It stores in the key register and may request
its interrupt. -/
theorem ShowsHardware.setKey {console : Console} (shows : console.ShowsHardware) (key : Key)
    (pressed : Bool) : (console.setKey key pressed).ShowsHardware := by
  have line : (console.io.setKey key pressed).readHalf .vcount = console.io.readHalf .vcount :=
    console.io.readHalf_setKey_of_ne key pressed (by decide) (by decide)
  have status :
      (console.io.setKey key pressed).readHalf .dispstat = console.io.readHalf .dispstat :=
    console.io.readHalf_setKey_of_ne key pressed (by decide) (by decide)
  exact ⟨shows.clock.of_same line (congrArg (BitVec.getLsbD · 0) status)
    (congrArg (BitVec.getLsbD · 1) status), shows.requests.setKey key pressed⟩

/-- At power-on the registers show a clock at the start of the first line, and no request is there
that the machine does not know. -/
theorem showsHardware_of_powerOn {console : Console} (clock : console.clock = .powerOn)
    (io : console.io = .powerOn) : console.ShowsHardware := by
  refine ⟨?_, ?_⟩
  · rw [clock, io]
    exact ⟨by decide, by decide, by decide +kernel, by decide +kernel, by decide +kernel⟩
  · have none : IoRegisters.powerOn.interruptFlags = 0 := by decide +kernel
    rw [io]
    intro i _
    rw [none]
    exact BitVec.getLsbD_zero

/-- Every operation keeps the registers and the hardware together. For ticks this is time that
passes, and a reset begins again from power-on. -/
theorem showsHardware_invariant : OperationInvariant ShowsHardware where
  powerOn _ := showsHardware_of_powerOn rfl rfl
  loadRom _ _ shows := ⟨shows.clock, shows.requests⟩
  skipBios _ shows := ⟨shows.clock, shows.requests⟩
  tick _ shows := shows.tick
  setKey _ key pressed shows := shows.setKey key pressed
  addBreakpoint _ _ _ shows := ⟨shows.clock, shows.requests⟩
  removeBreakpoint _ _ _ shows := ⟨shows.clock, shows.requests⟩
  enableDebugger _ _ shows := ⟨shows.clock, shows.requests⟩
  setStopped _ _ shows := ⟨shows.clock, shows.requests⟩
  reset _ _ := showsHardware_of_powerOn rfl rfl

/-- The registers of every console that can be reached show its hardware. -/
theorem showsHardware_reachable {console : Console} (reachable : console.Reachable) :
    console.ShowsHardware :=
  showsHardware_invariant.reachable reachable

/-! ## Keys -/

/-- Whether an operation presses or releases a key. -/
def Operation.press? (key : Key) : Operation → Option Bool
  | setKey changed pressed => if changed = key then some pressed else none
  | _ => none

def Operation.isReset : Operation → Bool
  | reset => true
  | _ => false

/-- What was done since power-on or the last reset, the latest first. -/
def sinceReset (operations : List Operation) : List Operation :=
  operations.reverse.takeWhile fun operation => !operation.isReset

/-- What is looked for among the latest operations is found in the last one, or else before it. A
reset as the last one leaves nothing to be found. -/
theorem findSome?_sinceReset_concat {α : Type} (found? : Operation → Option α)
    (operations : List Operation) (last : Operation) :
    (sinceReset (operations ++ [last])).findSome? found? =
      if last.isReset then none
      else (found? last).or ((sinceReset operations).findSome? found?) := by
  unfold sinceReset
  rw [List.reverse_append, List.reverse_singleton, List.singleton_append, List.takeWhile_cons]
  cases last.isReset with
  | true => rfl
  | false =>
      simp only [Bool.not_false, ↓reduceIte, List.findSome?_cons, Bool.false_eq_true]
      cases found? last <;> rfl

/-- Whether the last event of a key since power-on or reset was a press. -/
def held (operations : List Operation) (key : Key) : Bool :=
  (sinceReset operations).findSome? (·.press? key) == some true

/-- Loading an image leaves the key register alone. -/
theorem keyInput_loadRom (console : Console) (image : Array Byte) :
    (console.loadRom image).io.keyInput = console.io.keyInput := rfl

/-- So does a tick, since a program cannot write the key register. -/
theorem keyInput_tick (console : Console) : console.tick.io.keyInput = console.io.keyInput := by
  rcases console.elapsed_tick with same | ⟨io, cycles, same, _, registers⟩
  · rw [same]
  · rw [registers, IoRegisters.keyInput, Clock.readHalf_advance_of_ne _ _ _ (by decide) (by decide)
      (by decide)]
    exact same.keys

/-- An operation other than a key event or a reset leaves the keys alone, however many ticks it
runs. -/
theorem keyInput_apply {operation : Operation} (notReset : operation.isReset = false)
    (noPress : ∀ key, operation.press? key = none) (console : Console) :
    (operation.apply console).io.keyInput = console.io.keyInput := by
  cases operation with
  | setKey key pressed => exact absurd (noPress key) (by simp [Operation.press?])
  | reset => cases notReset
  | step | tick => exact console.keyInput_tick
  | tickMultiple count => exact tickMultiple_kept (·.io.keyInput) keyInput_tick console count
  | loadRom image => exact console.keyInput_loadRom image
  | loadTestRom => exact console.keyInput_loadRom _
  | skipBios | addBreakpoint | removeBreakpoint | enableDebugger | setStopped => rfl

/-- A key is held as the last operation leaves it: released by a reset, as its own event says, or as
it was. -/
theorem held_concat (operations : List Operation) (last : Operation) (key : Key) :
    held (operations ++ [last]) key =
      if last.isReset then false else (last.press? key).getD (held operations key) := by
  unfold held
  rw [findSome?_sinceReset_concat]
  split
  · rfl
  · cases last.press? key with
    | none => rfl
    | some pressed => cases pressed <;> rfl

/-- The last operation is applied to what the ones before it leave. -/
theorem run_concat (console : Console) (operations : List Operation) (last : Operation) :
    console.run (operations ++ [last]) = last.apply (console.run operations) := by
  rw [run_append, run_cons, run_nil]

/-- The key register has a bit for every key, which is clear while the key is held. -/
structure ShowsKeys (io : IoRegisters) (held : Key → Bool) : Prop where
  keys : ∀ key : Key, io.keyInput.getLsbD key.index = !held key
  others : ∀ i, 10 ≤ i → io.keyInput.getLsbD i = false

/-- At power-on no key is held, and the register shows none. Its bits are zero for keys that are
held. -/
theorem showsKeys_powerOn : ShowsKeys .powerOn fun _ => false := by
  have stored : IoRegisters.powerOn.keyInput = Key.idle :=
    IoRegisters.readHalf_storeHalf_self _ _ _
  refine ⟨fun key => ?_, fun i above => ?_⟩
  · rw [stored, Key.getLsbD_idle, decide_eq_true key.index_lt]
    rfl
  · rw [stored, Key.getLsbD_idle, decide_eq_false (Nat.not_lt.mpr above)]

/-- A key event is shown by the bit of its key, and by that bit alone. The other keys are shown as
before. -/
theorem ShowsKeys.setKey {io : IoRegisters} {held : Key → Bool} (shows : ShowsKeys io held)
    (key : Key) (pressed : Bool) :
    ShowsKeys (io.setKey key pressed) fun other => if key = other then pressed else held other := by
  refine ⟨fun other => ?_, fun i above => ?_⟩
  · rw [io.getLsbD_keyInput_setKey]
    by_cases same : key = other
    · rw [if_pos (Key.index_inj.mpr same.symm), if_pos same]
    · rw [if_neg fun index => same (Key.index_inj.mp index).symm, if_neg same, shows.keys]
  · have different : i ≠ key.index := Nat.ne_of_gt (Nat.lt_of_lt_of_le key.index_lt above)
    rw [io.getLsbD_keyInput_setKey, if_neg different, shows.others i above]

/-- The keys are shown by the key register and by nothing else, so what leaves the register alone
may change everything around it. -/
theorem ShowsKeys.congr {before after : IoRegisters} {heldBefore heldAfter : Key → Bool}
    (shows : ShowsKeys before heldBefore) (registers : after.keyInput = before.keyInput)
    (keys : heldAfter = heldBefore) : ShowsKeys after heldAfter := by
  subst keys
  exact ⟨fun key => by rw [registers, shows.keys], fun i above => by
    rw [registers, shows.others i above]⟩

/-- After any operations the key register shows the last event of every key since power-on or the
last reset. By induction on the operations, from their end. -/
theorem showsKeys_run (config : ConsoleConfig) (operations : List Operation) :
    ShowsKeys ((powerOn config).run operations).io (held operations) := by
  induction operations using List.reverseRecOn with
  | nil => exact showsKeys_powerOn
  | append_singleton earlier last ih =>
      rw [run_concat]
      by_cases resets : last.isReset = true
      · cases last <;> cases resets
        exact showsKeys_powerOn.congr rfl (funext fun key => by rw [held_concat]; rfl)
      · by_cases presses : ∃ key pressed, last = .setKey key pressed
        · obtain ⟨key, pressed, rfl⟩ := presses
          refine (ih.setKey key pressed).congr rfl (funext fun other => ?_)
          rw [held_concat]
          show (if key = other then some pressed else none).getD _ = _
          split <;> rfl
        · have noPress (key : Key) : last.press? key = none := by
            cases last with
            | setKey key pressed => exact absurd ⟨key, pressed, rfl⟩ presses
            | _ => rfl
          have notReset : last.isReset = false := Bool.eq_false_iff.mpr resets
          refine ih.congr (keyInput_apply notReset noPress _) (funext fun key => ?_)
          rw [held_concat, notReset, noPress]
          rfl

/-- Whatever a program stores, and whatever is done to the console from outside: the line counter
holds the clock's line, the status shows the vertical blank on lines 160 to 226 and the horizontal
blank from dot 240 on, no request is made for an interrupt that does not exist, and the key register
has clear bits for the keys whose last event since power-on or reset was a press. -/
theorem hardware_registers_intact (config : ConsoleConfig) (operations : List Operation) :
    let console := (powerOn config).run operations
    ((console.io.readHalf .vcount).toNat = console.clock.line ∧ console.clock.line < 228) ∧
      (console.io.videoStatus.getLsbD 0 = true ↔
        160 ≤ console.clock.line ∧ console.clock.line ≤ 226) ∧
      (console.io.videoStatus.getLsbD 1 = true ↔ 240 ≤ console.clock.dot) ∧
      console.clock.cycle < 1232 ∧
      (console.io.interruptFlags.getLsbD 14 = false ∧
        console.io.interruptFlags.getLsbD 15 = false) ∧
      (∀ key : Key, console.io.keyInput.getLsbD key.index = !held operations key) ∧
      ∀ i, 10 ≤ i → console.io.keyInput.getLsbD i = false := by
  intro console
  have shows : console.ShowsHardware := showsHardware_reachable ⟨config, operations, rfl⟩
  have shown := shows.clock
  have keys : ShowsKeys console.io (held operations) := showsKeys_run config operations
  refine ⟨⟨shown.line, shown.inFrame⟩, ?_, ?_, shown.inLine,
    ⟨shows.requests 14 (by decide), shows.requests 15 (by decide)⟩, keys.keys, keys.others⟩
  · rw [shown.vBlank]
    exact and_congr_right fun _ => Nat.lt_succ_iff
  · rw [shown.hBlank]
    exact console.clock.hBlankCycle_le_iff

end Handheld.Console
