import Handheld.Proofs.Console.Instrumentation
import Handheld.Proofs.Console.Time
import Handheld.Proofs.Debug.Breakpoints
import Handheld.Proofs.Debug.History

/-!
# The debugger over a run

A tick is held by the debugger, or waits without it, or is followed by it (`Console.followed_tick`).
So the history shows the newest instructions executed under instrumentation
(`Console.holds_run`), and a tick that was followed stops execution exactly at a breakpoint
(`Console.isStopped_tick_iff`). The breakpoints of each instruction set are those whose last change
added them (`Console.mem_breakpoints_run`).
-/

namespace Handheld.Console

/-! ## Ticks -/

/-- What a tick has to do with the debugger. -/
inductive Followed (console : Console) : Prop
  /-- The debugger holds execution, and nothing happens. -/
  | stopped (outcome : console.step.1 = .stopped) (kept : console.tick = console)
  /-- The processor waits, which the debugger does not notice. -/
  | halted (cycles : Nat) (outcome : console.step.1 = .halted cycles)
    (kept : console.tick.debugger = console.debugger)
  /-- An interrupt was taken or an instruction executed, and the debugger looks where it led. -/
  | ran (going : console.isStopped = false) (awake : ∀ cycles, console.step.1 ≠ .halted cycles)
    (followed : console.tick.debugger = console.debugger.afterTick console.step.1.committedPc?
      console.tick.regs.pc console.tick.regs.instructionSet)

/-- After every tick the debugger is what its own rule makes of the tick: the address that was
executed, if any, is in the history, and the stop flag says whether the next one is a breakpoint. -/
theorem followed_tick (console : Console) : Followed console := by
  rcases console.step_cases with ⟨stopped, held⟩ | ⟨_, waited⟩ | ⟨going, ran⟩
  · exact .stopped (congrArg Prod.fst held) (tick_of_stopped stopped)
  · refine .halted haltedCycles (congrArg Prod.fst waited) ?_
    rw [tick, waited]
    rfl
  · refine .ran going ?_ ?_
    · rw [ran]
      exact execute_ne_halted console.machine
    · rw [tick, ran]
      rfl

theorem debugger_loadRom (console : Console) (image : Array Byte) :
    (console.loadRom image).debugger = console.debugger := rfl

/-- Ticks neither attach nor detach the debugger. -/
theorem enabled_tick (console : Console) :
    console.tick.debugger.enabled = console.debugger.enabled := by
  cases console.followed_tick with
  | stopped _ kept => rw [kept]
  | halted _ _ kept => rw [kept]
  | ran _ _ followed => rw [followed, Debugger.enabled_afterTick]

/-- Ticks leave the breakpoints of both instruction sets alone. -/
theorem breakpoints_tick (console : Console) (set : InstructionSet) :
    console.tick.debugger.breakpoints set = console.debugger.breakpoints set := by
  cases console.followed_tick with
  | stopped _ kept => rw [kept]
  | halted _ _ kept => rw [kept]
  | ran _ _ followed => rw [followed, Debugger.breakpoints_afterTick]

/-- A tick that is neither held nor waits stops execution exactly where instrumentation finds a
breakpoint. -/
theorem isStopped_tick_iff {console : Console} (notStopped : console.step.1 ≠ .stopped)
    (notHalted : ∀ cycles, console.step.1 ≠ .halted cycles) :
    console.tick.isStopped = true ↔ console.tick.debugger.enabled = true ∧
      console.tick.regs.pc ∈
        console.tick.debugger.breakpoints console.tick.regs.instructionSet := by
  cases console.followed_tick with
  | stopped outcome => exact absurd outcome notStopped
  | halted cycles outcome => exact absurd outcome (notHalted cycles)
  | ran going _ followed =>
      have awake : console.debugger.stopped = false := going
      rw [enabled_tick, breakpoints_tick, isStopped, followed, Debugger.stopped_afterTick, awake,
        Bool.false_or, Bool.and_eq_true, Breakpoints.contains_iff]

/-! ## The history -/

/-- The addresses among outcomes that the debugger records. -/
def recorded (console : Console) (outcomes : List StepOutcome) : List Word :=
  if console.debugger.enabled then outcomes.filterMap StepOutcome.committedPc? else []

theorem recorded_nil (console : Console) : console.recorded [] = [] := ite_self _

/-- What a sequence of outcomes adds to the history is what each of them adds, in order. -/
theorem recorded_cons (console : Console) (first : StepOutcome) (rest : List StepOutcome) :
    console.recorded (first :: rest) = console.recorded [first] ++ console.recorded rest := by
  unfold recorded
  split
  · rw [← List.filterMap_append]
    rfl
  · rfl

/-- An outcome adds the address it executed, if it executed one and the debugger is attached. Sleep
and a stop execute none. -/
theorem recorded_singleton (console : Console) (outcome : StepOutcome) :
    console.recorded [outcome] =
      if console.debugger.enabled then outcome.committedPc?.toList else [] := by
  unfold recorded
  cases committed : outcome.committedPc? with
  | none => rw [List.filterMap_cons_none committed]; rfl
  | some pc => rw [List.filterMap_cons_some committed]; rfl

/-- Whether outcomes are recorded does not change from tick to tick. -/
theorem recorded_tick (console : Console) (outcomes : List StepOutcome) :
    console.tick.recorded outcomes = console.recorded outcomes := by
  rw [recorded, enabled_tick]
  rfl

variable {console : Console} {limit : Nat} {added : List Word}

/-- What records nothing leaves the history alone, so that it still holds what it held. -/
theorem holds_untouched (holds : console.debugger.history.Holds limit added) {after : Console}
    (kept : after.debugger.history = console.debugger.history) {outcomes : List StepOutcome}
    (nothing : console.recorded outcomes = []) :
    after.debugger.history.Holds limit (added ++ console.recorded outcomes) := by
  rw [kept, nothing, List.append_nil]
  exact holds

/-- A tick that executes an instruction pushes its address, and any other tick leaves the history as
it is. -/
theorem holds_tick (holds : console.debugger.history.Holds limit added) :
    console.tick.debugger.history.Holds limit (added ++ console.recorded [console.step.1]) := by
  cases console.followed_tick with
  | stopped outcome kept =>
      refine holds_untouched holds (congrArg (·.debugger.history) kept) ?_
      rw [outcome]
      exact ite_self _
  | halted cycles outcome kept =>
      refine holds_untouched holds (congrArg (·.history) kept) ?_
      rw [outcome]
      exact ite_self _
  | ran _ _ followed =>
      rw [followed, recorded_singleton]
      exact holds.afterTick _ _ _

/-- Over many ticks the history receives the executed addresses in the order of their execution. By
induction on the ticks. -/
theorem holds_tickMultiple (holds : console.debugger.history.Holds limit added) (count : Nat) :
    (console.tickMultiple count).debugger.history.Holds limit
      (added ++ console.recorded (console.tickOutcomes count)) := by
  -- What the first tick records goes over to what was recorded before the others.
  induction count generalizing console added with
  | zero => exact holds_untouched holds rfl console.recorded_nil
  | succ count ih =>
      unfold tickMultiple tickOutcomes
      split
      · exact holds_untouched holds rfl console.recorded_nil
      · rw [recorded_cons, ← List.append_assoc, ← recorded_tick _ (tickOutcomes _ _)]
        exact ih (holds_tick holds)

/-- Setting and removing breakpoints leaves the history alone, in both sets of breakpoints. -/
theorem history_modifyBreakpoints (debugger : Debugger) (set : InstructionSet)
    (f : Breakpoints → Breakpoints) :
    (debugger.modifyBreakpoints set f).history = debugger.history := by
  cases set <;> rfl

/-- An operation adds to the history what is recorded of the outcomes of its ticks, and a reset
starts afresh with an empty one. -/
theorem holds_apply (holds : console.debugger.history.Holds limit added) (operation : Operation) :
    (operation.apply console).debugger.history.Holds limit
      (if operation.isReset then []
        else added ++ console.recorded (operation.outcomes console)) := by
  cases operation with
  | reset =>
      show (History.empty console.debugger.history.capacity).Holds limit []
      rw [holds.capacity]
      exact .empty limit
  | step | tick => exact holds_tick holds
  | tickMultiple count => exact holds_tickMultiple holds count
  | loadRom image =>
      exact holds_untouched holds (congrArg (·.history) (console.debugger_loadRom image))
        console.recorded_nil
  | loadTestRom =>
      exact holds_untouched holds (congrArg (·.history) (console.debugger_loadRom _))
        console.recorded_nil
  | skipBios | setKey | enableDebugger | setStopped =>
      exact holds_untouched holds rfl console.recorded_nil
  | addBreakpoint set address | removeBreakpoint set address =>
      exact holds_untouched holds (history_modifyBreakpoints _ set _) console.recorded_nil

/-- What the debugger has recorded since power-on or the last reset, the earliest first, when what
it recorded before is given. -/
def recordedSinceReset (console : Console) (earlier : List Word) : List Operation → List Word
  | [] => earlier
  | first :: rest =>
    (first.apply console).recordedSinceReset
      (if first.isReset then [] else earlier ++ console.recorded (first.outcomes console)) rest

/-- Over any operations the history holds the last addresses executed under an attached debugger
since it was last cleared. By induction on the operations: a reset clears it, ticks push to it, and
nothing else reaches it. -/
theorem holds_run (holds : console.debugger.history.Holds limit added)
    (operations : List Operation) :
    (console.run operations).debugger.history.Holds limit
      (console.recordedSinceReset added operations) := by
  induction operations generalizing console added with
  | nil => exact holds
  | cons first rest ih => exact ih (holds_apply holds first)

/-! ## The breakpoints -/

/-- What the last of the operations that are of a kind has changed. -/
def latest? (change? : Operation → Option Bool) (operations : List Operation) : Option Bool :=
  operations.reverse.findSome? change?

/-- The last operation to make a change decides. Only if the new one makes none does an earlier one
count. -/
theorem latest?_concat (change? : Operation → Option Bool) (operations : List Operation)
    (last : Operation) :
    latest? change? (operations ++ [last]) = (change? last).or (latest? change? operations) := by
  unfold latest?
  rw [List.reverse_append, List.reverse_singleton, List.singleton_append, List.findSome?_cons]
  cases change? last <;> rfl

/-- Whether an operation adds or removes a breakpoint. -/
def Operation.adds? (set : InstructionSet) (address : Word) : Operation → Option Bool
  | addBreakpoint changed other => if changed = set ∧ other = address then some true else none
  | removeBreakpoint changed other => if changed = set ∧ other = address then some false else none
  | _ => none

def Operation.enables? : Operation → Option Bool
  | enableDebugger enabled => some enabled
  | _ => none

def Operation.breakpoints (set : InstructionSet) : Operation → Breakpoints → Breakpoints
  | addBreakpoint changed address, old => if changed = set then old.insert address else old
  | removeBreakpoint changed address, old => if changed = set then old.erase address else old
  | _, old => old

/-- Only additions and removals change the breakpoints, each of one instruction set. A reset keeps
them as well. -/
theorem breakpoints_apply (operation : Operation) (console : Console) (set : InstructionSet) :
    (operation.apply console).debugger.breakpoints set =
      operation.breakpoints set (console.debugger.breakpoints set) := by
  cases operation with
  | addBreakpoint changed address | removeBreakpoint changed address =>
      cases changed <;> cases set <;> rfl
  | step | tick => exact console.breakpoints_tick set
  | tickMultiple count =>
      exact tickMultiple_kept (·.debugger.breakpoints set) (breakpoints_tick · set) console count
  | loadRom image => exact congrArg (·.breakpoints set) (console.debugger_loadRom image)
  | loadTestRom => exact congrArg (·.breakpoints set) (console.debugger_loadRom _)
  | skipBios | setKey | enableDebugger | setStopped | reset => cases set <;> rfl

/-- Every operation keeps the list of breakpoints sorted, with no address in it twice, whether it
inserts, removes or leaves it. -/
theorem ascending_breakpoints (operation : Operation) (set : InstructionSet) {old : Breakpoints}
    (ascending : old.Ascending) : (operation.breakpoints set old).Ascending := by
  unfold Operation.breakpoints
  split
  · split
    · exact ascending.insert _
    · exact ascending
  · split
    · exact ascending.erase _
    · exact ascending
  · exact ascending

/-- After an operation an address is a breakpoint if the operation adds it, or if it was one already
and the operation says nothing about it. -/
theorem mem_breakpoints (operation : Operation) (set : InstructionSet) (old : Breakpoints)
    (address : Word) :
    address ∈ operation.breakpoints set old ↔ operation.adds? set address = some true ∨
      operation.adds? set address = none ∧ address ∈ old := by
  cases operation with
  | addBreakpoint changed other | removeBreakpoint changed other =>
      simp only [Operation.breakpoints, Operation.adds?]
      by_cases same : changed = set
      · by_cases here : other = address
        · simp [same, here, Breakpoints.mem_insert, Breakpoints.mem_erase]
        · simp [same, here, Ne.symm here, Breakpoints.mem_insert, Breakpoints.mem_erase]
      · simp [same]
  | _ => exact (or_iff_right (by intro h; cases h)).trans (and_iff_right rfl) |>.symm

/-- The breakpoints of an instruction set are the addresses whose last change added them. Nothing
else has a say, ticks and resets included. -/
theorem mem_breakpoints_run (config : ConsoleConfig) (operations : List Operation)
    (set : InstructionSet) (address : Word) :
    address ∈ ((powerOn config).run operations).debugger.breakpoints set ↔
      latest? (·.adds? set address) operations = some true := by
  induction operations using List.reverseRecOn with
  | nil => cases set <;> exact iff_of_false List.not_mem_nil (Option.some_ne_none true).symm
  | append_singleton earlier last ih =>
      rw [run_concat, breakpoints_apply, mem_breakpoints, latest?_concat, Option.or_eq_some_iff, ih]

/-- The breakpoints of both instruction sets are in ascending order, each listed once, after any
operations. -/
theorem ascending_breakpoints_run (config : ConsoleConfig) (operations : List Operation)
    (set : InstructionSet) :
    (((powerOn config).run operations).debugger.breakpoints set).Ascending := by
  induction operations using List.reverseRecOn with
  | nil => cases set <;> exact .empty
  | append_singleton earlier last ih =>
      rw [run_concat, breakpoints_apply]
      exact ascending_breakpoints last set ih

/-! ## Instrumentation -/

/-- The debugger is attached as the operation sets it, or as it was before if the operation does not
say. -/
theorem enabled_apply (operation : Operation) (console : Console) :
    (operation.apply console).debugger.enabled =
      operation.enables?.getD console.debugger.enabled := by
  cases operation with
  | addBreakpoint set address | removeBreakpoint set address => cases set <;> rfl
  | step | tick => exact console.enabled_tick
  | tickMultiple count => exact tickMultiple_kept (·.debugger.enabled) enabled_tick console count
  | loadRom image => exact congrArg (·.enabled) (console.debugger_loadRom image)
  | loadTestRom => exact congrArg (·.enabled) (console.debugger_loadRom _)
  | skipBios | setKey | enableDebugger | setStopped | reset => rfl

/-- Instrumentation is on or off as the console was built, or as it was last switched. A reset does
not switch it back. -/
theorem enabled_run (config : ConsoleConfig) (operations : List Operation) :
    ((powerOn config).run operations).debugger.enabled =
      (latest? Operation.enables? operations).getD config.debuggerEnabled := by
  induction operations using List.reverseRecOn with
  | nil => rfl
  | append_singleton earlier last ih =>
      rw [run_concat, enabled_apply, latest?_concat, ih]
      cases last.enables? <;> rfl

/-- The debugger over a run, whatever the capacity of its history. The history shows the last of the
instructions executed since power-on or reset while instrumentation was on, in their order. A tick
that is neither held nor waits leaves execution stopped exactly when instrumentation is on and `r15`
is at a breakpoint of the current instruction set; one that waits leaves the debugger alone, and one
that is held the whole console. The breakpoints of each instruction set ascend strictly, and they
are the addresses whose last change added them. -/
theorem debugger_over_run (config : ConsoleConfig) (operations : List Operation) :
    let console := (powerOn config).run operations
    console.debugger.history.toList =
        ((powerOn config).recordedSinceReset [] operations).rtake config.historyCapacity ∧
      console.debugger.enabled =
        (latest? Operation.enables? operations).getD config.debuggerEnabled ∧
      (console.step.1 ≠ .stopped → (∀ cycles, console.step.1 ≠ .halted cycles) →
        (console.tick.isStopped = true ↔ console.tick.debugger.enabled = true ∧
          console.tick.regs.pc ∈
            (console.tick.debugger.breakpoints console.tick.regs.instructionSet).toList)) ∧
      (∀ cycles, console.step.1 = .halted cycles → console.tick.debugger = console.debugger) ∧
      (console.step.1 = .stopped → console.tick = console) ∧
      ∀ set : InstructionSet,
        (console.debugger.breakpoints set).toList.Pairwise (· < ·) ∧
          ∀ address, address ∈ (console.debugger.breakpoints set).toList ↔
            latest? (·.adds? set address) operations = some true := by
  intro console
  have start : (powerOn config).debugger.history.Holds config.historyCapacity [] := .empty _
  refine ⟨(holds_run start operations).entries, enabled_run config operations,
    isStopped_tick_iff, ?_, ?_, fun set => ⟨ascending_breakpoints_run config operations set,
      mem_breakpoints_run config operations set⟩⟩
  · intro cycles outcome
    cases console.followed_tick with
    | stopped _ kept => rw [kept]
    | halted _ _ kept => exact kept
    | ran _ awake => exact absurd outcome (awake cycles)
  · intro outcome
    exact tick_of_stopped ((step_eq_stopped_iff console).mp outcome)

end Handheld.Console
