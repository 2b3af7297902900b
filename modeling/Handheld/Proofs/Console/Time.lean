import Handheld.Proofs.Console.HardwareState
import Handheld.Proofs.Video.Position
import Mathlib.Algebra.GroupWithZero.Nat

/-!
# Time

A tick advances the clock by the cycles of its outcome, counts an instruction before it executes
one, and leaves the address in its outcome with the debugger (`Console.advanced_tick`). What
executes an instruction has the address of one in its outcome, whatever became of it
(`Console.isSome_committedPc?_execute`), so that the counter agrees with the outcomes. Hence the
outcomes since power-on or the last reset account for the clock and for both counters
(`Console.Accounted`), after every run (`Console.accounted_run`). No outcome takes more than four
cycles, which is why no tick gets past more than one boundary of the clock.
-/

namespace Handheld

/-! ## The cost of a tick -/

/-- No class of instructions takes more than four cycles. -/
theorem InstructionClass.cycles_le (kind : InstructionClass) : kind.cycles ≤ 4 := by
  cases kind <;> decide

/-- No step takes more than four cycles, as its cycles are those of a class or of an instruction
that is skipped. -/
theorem Machine.cycles_step_le (m : Machine) : m.step.1.cycles ≤ 4 := by
  unfold step
  split
  · unfold stepThumb
    dsimp only
    split <;> exact InstructionClass.cycles_le _
  · unfold stepArm
    dsimp only
    split
    · exact InstructionClass.cycles_le _
    · split <;> exact InstructionClass.cycles_le _

namespace Console

/-- Entering an interrupt takes no longer than an instruction, so what the processor does in a tick
takes at most four cycles. -/
theorem cycles_execute_le (machine : Machine) : (execute machine).1.cycles ≤ 4 := by
  unfold execute
  split
  · change interruptEntryCycles ≤ 4
    decide
  · have cost : (StepOutcome.ofExecute machine.step.1).cycles = machine.step.1.cycles := by
      cases machine.step.1 <;> rfl
    exact cost ▸ machine.cycles_step_le

/-- A tick takes at most four cycles, whether it executes or sleeps, and a tick that is held takes
none. -/
theorem cycles_step_le (console : Console) : console.step.1.cycles ≤ 4 := by
  unfold step
  split
  · exact Nat.zero_le _
  · split
    · change haltedCycles ≤ 4
      decide
    · exact cycles_execute_le console.machine

/-! ## One tick -/

/-- What a tick with an outcome does to the clock, to the counter of instructions and to the
address of the last one. -/
structure Advanced (before : Console) (outcome : StepOutcome) (after : Console) : Prop where
  clock : ∃ io, before.io.SameHardwareState io ∧
    after.clock = (before.clock.advance io outcome.cycles).clock ∧
    after.io = (before.clock.advance io outcome.cycles).io
  retired : after.retired = before.retired + if outcome.committedPc?.isSome then 1 else 0
  lastPc : after.debugger.lastPc = outcome.committedPc?.getD before.debugger.lastPc

/-- Only an interrupt leaves a tick without the address of an instruction; an instruction that is
skipped or traps has one. -/
theorem isSome_committedPc?_execute (machine : Machine) :
    (execute machine).1.committedPc?.isSome = !takesInterrupt machine := by
  unfold execute
  cases takesInterrupt machine with
  | true => rfl
  | false =>
      change (StepOutcome.ofExecute machine.step.1).committedPc?.isSome = true
      cases machine.step.1 <;> rfl

/-- The instructions that were counted when they were begun are those with an address in the
outcome. -/
theorem retired_stepRunning (console : Console) :
    console.stepRunning.2.retired =
      console.retired + if console.stepRunning.1.committedPc?.isSome then 1 else 0 := by
  change (if takesInterrupt console.machine then console.retired else console.retired + 1) =
    console.retired + if (execute console.machine).1.committedPc?.isSome then 1 else 0
  rw [isSome_committedPc?_execute]
  cases takesInterrupt console.machine <;> rfl

/-- The debugger keeps the address of the last instruction that was executed, attached or not. A
tick that executes none leaves it. -/
theorem lastPc_afterTick (debugger : Debugger) (committed? : Option Word) (next : Word)
    (set : InstructionSet) :
    (debugger.afterTick committed? next set).lastPc = committed?.getD debugger.lastPc := by
  unfold Debugger.afterTick Debugger.record
  dsimp only
  split
  · split <;> rfl
  · rfl

/-- Every tick accounts for itself by its outcome: the clock by its cycles, the counter and the last
address by whether it executed. -/
theorem advanced_tick (console : Console) : Advanced console console.step.1 console.tick := by
  unfold tick step
  split
  · have still : console.clock.advance console.io StepOutcome.stopped.cycles =
        ⟨console.clock, console.io, false⟩ := Clock.advance_zero _ _
    exact ⟨⟨console.io, .refl _, by rw [still], by rw [still]⟩, rfl, rfl⟩
  · split
    · exact ⟨⟨console.io, .refl _, rfl, rfl⟩, rfl, rfl⟩
    · exact ⟨⟨(execute console.machine).2.bus.io.clearHaltRequest,
        (written_executeTick console.machine).sameHardwareState.trans (.of_bytes rfl), rfl, rfl⟩,
        console.retired_stepRunning, lastPc_afterTick _ _ _ _⟩

/-! ## Runs -/

/-- The outcomes of a number of ticks, or of as many as there are before the debugger holds
execution. -/
def tickOutcomes (console : Console) : Nat → List StepOutcome
  | 0 => []
  | count + 1 =>
    if console.isStopped then [] else console.step.1 :: console.tick.tickOutcomes count

/-- The outcomes of the ticks of an operation. -/
def Operation.outcomes : Operation → Console → List StepOutcome
  | step, console | tick, console => [console.step.1]
  | tickMultiple count, console => console.tickOutcomes count
  | _, _ => []

/-- The outcomes since power-on or the last reset, the earliest first, when those of earlier
operations are given. -/
def outcomesSinceReset (console : Console) (earlier : List StepOutcome) :
    List Operation → List StepOutcome
  | [] => earlier
  | first :: rest =>
    (first.apply console).outcomesSinceReset
      (if first.isReset then [] else earlier ++ first.outcomes console) rest

/-- The cycles that outcomes take together. -/
def elapsed (outcomes : List StepOutcome) : Nat := (outcomes.map StepOutcome.cycles).sum

/-- The outcomes since power-on or the last reset account for the clock, for the counter of
instructions and for the address of the last one. -/
structure Accounted (console : Console) (outcomes : List StepOutcome) : Prop where
  clock : console.clock = .after (elapsed outcomes)
  retired : console.retired = outcomes.countP (·.committedPc?.isSome)
  lastPc : console.debugger.lastPc = (outcomes.filterMap StepOutcome.committedPc?).getLast?.getD 0
  bounded : ∀ outcome ∈ outcomes, outcome.cycles ≤ 4

/-- One more outcome takes its cycles. -/
theorem elapsed_concat (outcomes : List StepOutcome) (last : StepOutcome) :
    elapsed (outcomes ++ [last]) = elapsed outcomes + last.cycles := by
  simp only [elapsed, List.map_append, List.map_cons, List.map_nil, List.sum_append_nat,
    List.sum_cons, List.sum_nil, Nat.add_zero]

/-- As many outcomes take at most four times as many cycles. By induction on the outcomes. -/
theorem elapsed_le {outcomes : List StepOutcome} (bounded : ∀ outcome ∈ outcomes,
    outcome.cycles ≤ 4) : elapsed outcomes ≤ 4 * outcomes.length := by
  induction outcomes with
  | nil => exact Nat.zero_le _
  | cons first rest ih =>
      rw [List.forall_mem_cons] at bounded
      have later := ih bounded.2
      simp only [elapsed, List.map_cons, List.sum_cons, List.length_cons] at later ⊢
      omega

namespace Accounted

variable {console : Console} {outcomes : List StepOutcome}

/-- The line is one of those of a frame. -/
theorem line_lt (accounted : Accounted console outcomes) :
    console.clock.line < Clock.linesPerFrame := by
  rw [accounted.clock]
  exact Nat.mod_lt _ (by decide)

/-- No tick is long enough for two frames, so there are no more of them than ticks, and a counter
of 64 bits for them does not wrap around before one for the ticks would. -/
theorem frame_le (accounted : Accounted console outcomes) :
    console.clock.frame ≤ outcomes.length := by
  have short : elapsed outcomes ≤ 4 * outcomes.length := elapsed_le accounted.bounded
  have frame : console.clock.frame = (elapsed outcomes / 1232 + 68) / 228 := by
    rw [accounted.clock]
    rfl
  rw [frame]
  omega

/-- Every instruction takes a tick. -/
theorem retired_le (accounted : Accounted console outcomes) :
    console.retired ≤ outcomes.length := by
  rw [accounted.retired]
  exact List.countP_le_length

/-- At power-on and after a reset there are no outcomes to account for. -/
theorem of_powerOn (clock : console.clock = .powerOn) (retired : console.retired = 0)
    (lastPc : console.debugger.lastPc = 0) : Accounted console [] :=
  ⟨clock.trans Clock.after_zero.symm, retired, lastPc,
    fun _ member => absurd member List.not_mem_nil⟩

/-- What is no tick adds no outcome, and what was accounted for before is accounted for after it. -/
theorem untimed (accounted : Accounted console outcomes) {after : Console}
    (clock : after.clock = console.clock) (retired : after.retired = console.retired)
    (lastPc : after.debugger.lastPc = console.debugger.lastPc) :
    Accounted after (outcomes ++ []) := by
  rw [List.append_nil]
  exact ⟨clock.trans accounted.clock, retired.trans accounted.retired,
    lastPc.trans accounted.lastPc, accounted.bounded⟩

/-- Loading an image takes no time. -/
theorem loadRom (accounted : Accounted console outcomes) (image : Array Byte) :
    Accounted (console.loadRom image) (outcomes ++ []) := accounted.untimed rfl rfl rfl

/-- A tick adds its own outcome: its cycles to the clock, one to the counter if it executed, and the
address that it executed. -/
theorem tick (accounted : Accounted console outcomes) :
    Accounted console.tick (outcomes ++ [console.step.1]) := by
  obtain ⟨⟨io, _, clock, _⟩, retired, lastPc⟩ := console.advanced_tick
  refine ⟨?_, ?_, ?_, ?_⟩
  · rw [clock, accounted.clock, Clock.clock_advance_after, elapsed_concat]
  · rw [retired, accounted.retired, List.countP_append, List.countP_singleton]
  · rw [lastPc, accounted.lastPc, List.filterMap_append]
    cases committed : console.step.1.committedPc? with
    | none => simp only [List.filterMap_cons, committed, List.filterMap_nil, List.append_nil,
        Option.getD_none]
    | some pc => simp only [List.filterMap_cons, committed, List.filterMap_nil,
        List.getLast?_concat, Option.getD_some]
  · intro outcome member
    rcases List.mem_append.mp member with earlier | last
    · exact accounted.bounded outcome earlier
    · rw [List.mem_singleton.mp last]
      exact console.cycles_step_le

/-- Many ticks add their outcomes in order. By induction on the ticks, and a console that has
stopped adds none. -/
theorem tickMultiple (accounted : Accounted console outcomes) (count : Nat) :
    Accounted (console.tickMultiple count) (outcomes ++ console.tickOutcomes count) := by
  induction count generalizing console outcomes with
  | zero =>
      rw [tickOutcomes, List.append_nil]
      exact accounted
  | succ count ih =>
      unfold Console.tickMultiple tickOutcomes
      split
      · rw [List.append_nil]
        exact accounted
      · rw [← List.singleton_append, ← List.append_assoc]
        exact ih accounted.tick

/-- An operation is accounted for by the outcomes of its ticks, and a reset starts afresh, as the
clock and the counter do. -/
theorem apply (accounted : Accounted console outcomes) (operation : Operation) :
    Accounted (operation.apply console)
      (if operation.isReset then [] else outcomes ++ operation.outcomes console) := by
  cases operation with
  | reset => exact of_powerOn rfl rfl rfl
  | step | tick => exact accounted.tick
  | tickMultiple count => exact accounted.tickMultiple count
  | loadRom image => exact accounted.loadRom image
  | loadTestRom => exact accounted.loadRom _
  | skipBios | setKey | enableDebugger | setStopped => exact accounted.untimed rfl rfl rfl
  | addBreakpoint set address | removeBreakpoint set address =>
      exact accounted.untimed rfl rfl (by cases set <;> rfl)

end Accounted

/-- Whatever is done to a console, the outcomes since power-on or the last reset account for it. By
induction on the operations. -/
theorem accounted_run {console : Console} {earlier : List StepOutcome}
    (accounted : Accounted console earlier) (operations : List Operation) :
    Accounted (console.run operations) (console.outcomesSinceReset earlier operations) := by
  induction operations generalizing console earlier with
  | nil => exact accounted
  | cons first rest ih => exact ih (accounted.apply first)

/-- The cycles of all ticks since power-on or the last reset give the position of the clock in
closed form, the ticks that executed an instruction are counted and the last of them is remembered;
neither counter gets ahead of the number of ticks, so that counters of 64 bits would do for fewer
than `2 ^ 64` of them. No tick takes more than four cycles, so the next
one stays in its part of the line or gets to the next part, and what begins with a horizontal blank
or a line it does not miss. -/
theorem time_accounted (config : ConsoleConfig) (operations : List Operation) :
    let console := (powerOn config).run operations
    let outcomes := (powerOn config).outcomesSinceReset [] operations
    let time := (outcomes.map StepOutcome.cycles).sum
    (console.clock.cycle = time % 1232 ∧ console.clock.line = time / 1232 % 228 ∧
        console.clock.frame = (time / 1232 + 68) / 228) ∧
      (console.retired = outcomes.countP (·.committedPc?.isSome) ∧
        console.debugger.lastPc =
          (outcomes.filterMap StepOutcome.committedPc?).getLast?.getD 0) ∧
      (console.retired ≤ outcomes.length ∧ console.clock.frame ≤ outcomes.length) ∧
      (console.clock.line < 2 ^ 16 ∧
        (outcomes.length < 2 ^ 64 → console.retired < 2 ^ 64 ∧ console.clock.frame < 2 ^ 64)) ∧
      ((∀ outcome ∈ outcomes, outcome.cycles ≤ 4) ∧ console.step.1.cycles ≤ 4) ∧
      ∃ io, console.io.SameHardwareState io ∧
        console.clock.Passes io console.tick.clock console.tick.io := by
  intro console outcomes time
  have start : Accounted (powerOn config) [] := .of_powerOn rfl rfl rfl
  have accounted : Accounted console outcomes := accounted_run start operations
  refine ⟨⟨?_, ?_, ?_⟩, ⟨accounted.retired, accounted.lastPc⟩,
    ⟨accounted.retired_le, accounted.frame_le⟩,
    ⟨Nat.lt_trans accounted.line_lt (by decide), fun few =>
      ⟨Nat.lt_of_le_of_lt accounted.retired_le few, Nat.lt_of_le_of_lt accounted.frame_le few⟩⟩,
    ⟨accounted.bounded, console.cycles_step_le⟩, ?_⟩
  · rw [accounted.clock]
    rfl
  · rw [accounted.clock]
    rfl
  · rw [accounted.clock]
    rfl
  · obtain ⟨io, same, clock, registers⟩ := console.advanced_tick.clock
    have inLine : console.clock.cycle < Clock.cyclesPerLine := by
      rw [accounted.clock]
      exact Clock.cycle_after_lt _
    refine ⟨io, same, ?_⟩
    rw [clock, registers]
    exact Clock.passes_advance inLine io (Nat.le_trans console.cycles_step_le (by decide))

end Console

end Handheld
