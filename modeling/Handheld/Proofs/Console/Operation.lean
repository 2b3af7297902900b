import Handheld.Console

/-!
# Runs of a console

What can be done to a console from outside, one operation after the other from power-on on
(`Console.run`, `Console.Reachable`). A property that power-on establishes and the elementary
operations preserve (`Console.OperationInvariant`) holds after every run
(`Console.OperationInvariant.reachable`).
-/

namespace Handheld.Console

/-- What can be done to a console from outside. -/
inductive Operation where
  | loadRom (image : Array Byte)
  | loadTestRom
  | skipBios
  | step
  | tick
  | tickMultiple (count : Nat)
  | setKey (key : Key) (pressed : Bool)
  | addBreakpoint (set : InstructionSet) (address : Word)
  | removeBreakpoint (set : InstructionSet) (address : Word)
  | enableDebugger (enabled : Bool)
  | setStopped (stopped : Bool)
  | reset

/-- The console after an operation. -/
def Operation.apply : Operation → Console → Console
  | loadRom image, console => console.loadRom image
  | loadTestRom, console => console.loadTestRom
  | skipBios, console => console.skipBios
  | step, console => console.step.2
  | tick, console => console.tick
  | tickMultiple count, console => console.tickMultiple count
  | setKey key pressed, console => console.setKey key pressed
  | addBreakpoint set address, console => console.addBreakpoint set address
  | removeBreakpoint set address, console => console.removeBreakpoint set address
  | enableDebugger enabled, console => console.enableDebugger enabled
  | setStopped stopped, console => console.setStopped stopped
  | reset, console => console.reset

/-- The console after one operation and another. -/
def run (console : Console) (operations : List Operation) : Console :=
  operations.foldl (fun console operation => operation.apply console) console

/-- The consoles that operations make of one at power-on. -/
def Reachable (console : Console) : Prop :=
  ∃ config operations, console = (powerOn config).run operations

@[simp] theorem run_nil (console : Console) : console.run [] = console := rfl

@[simp] theorem run_cons (console : Console) (first : Operation) (rest : List Operation) :
    console.run (first :: rest) = (first.apply console).run rest := rfl

/-- Operations can be done in two parts. -/
theorem run_append (console : Console) (first second : List Operation) :
    console.run (first ++ second) = (console.run first).run second :=
  List.foldl_append

/-- What is reached from a console that can be reached can be reached. -/
theorem Reachable.run {console : Console} (reachable : console.Reachable)
    (operations : List Operation) : (console.run operations).Reachable := by
  obtain ⟨config, earlier, rfl⟩ := reachable
  exact ⟨config, earlier ++ operations, (run_append _ _ _).symm⟩

/-- In particular one more operation leads to a console that can be reached. -/
theorem Reachable.apply {console : Console} (reachable : console.Reachable)
    (operation : Operation) : (operation.apply console).Reachable :=
  reachable.run [operation]

/-- What no tick changes, a number of ticks does not change. By induction on the ticks, with a stop
as one that changes nothing. -/
theorem tickMultiple_kept {α : Type} (view : Console → α)
    (kept : ∀ console : Console, view console.tick = view console) (console : Console)
    (count : Nat) : view (console.tickMultiple count) = view console := by
  induction count generalizing console with
  | zero => rfl
  | succ count ih =>
      unfold tickMultiple
      split
      · rfl
      · rw [ih, kept]

/-- A property of consoles that power-on establishes and every elementary operation preserves. -/
structure OperationInvariant (property : Console → Prop) : Prop where
  powerOn : ∀ config, property (Console.powerOn config)
  loadRom : ∀ console image, property console → property (console.loadRom image)
  skipBios : ∀ console, property console → property console.skipBios
  tick : ∀ console, property console → property console.tick
  setKey : ∀ console key pressed, property console → property (console.setKey key pressed)
  addBreakpoint : ∀ console set address, property console →
    property (console.addBreakpoint set address)
  removeBreakpoint : ∀ console set address, property console →
    property (console.removeBreakpoint set address)
  enableDebugger : ∀ console enabled, property console → property (console.enableDebugger enabled)
  setStopped : ∀ console stopped, property console → property (console.setStopped stopped)
  reset : ∀ console, property console → property console.reset

namespace OperationInvariant

variable {property : Console → Prop}

/-- What one tick preserves, many do. By induction on their number, up to a tick that stops. -/
theorem tickMultiple (invariant : OperationInvariant property) (count : Nat) (console : Console)
    (holds : property console) : property (console.tickMultiple count) := by
  induction count generalizing console with
  | zero => exact holds
  | succ count ih =>
      unfold Console.tickMultiple
      split
      · exact holds
      · exact ih _ (invariant.tick console holds)

/-- An invariant is preserved by every operation. One that is several ticks is done by induction on
them. -/
theorem apply (invariant : OperationInvariant property) (operation : Operation)
    (console : Console) (holds : property console) : property (operation.apply console) := by
  cases operation with
  | loadRom image => exact invariant.loadRom console image holds
  | loadTestRom => exact invariant.loadRom console _ holds
  | skipBios => exact invariant.skipBios console holds
  | step => exact invariant.tick console holds
  | tick => exact invariant.tick console holds
  | tickMultiple count => exact invariant.tickMultiple count console holds
  | setKey key pressed => exact invariant.setKey console key pressed holds
  | addBreakpoint set address => exact invariant.addBreakpoint console set address holds
  | removeBreakpoint set address => exact invariant.removeBreakpoint console set address holds
  | enableDebugger enabled => exact invariant.enableDebugger console enabled holds
  | setStopped stopped => exact invariant.setStopped console stopped holds
  | reset => exact invariant.reset console holds

/-- So it is preserved by any list of them. -/
theorem run (invariant : OperationInvariant property) (operations : List Operation)
    (console : Console) (holds : property console) : property (console.run operations) := by
  induction operations generalizing console with
  | nil => exact holds
  | cons first rest ih => exact ih _ (invariant.apply first console holds)

/-- An invariant of the operations holds of every console that can be reached. -/
theorem reachable (invariant : OperationInvariant property) {console : Console}
    (reachable : console.Reachable) : property console := by
  obtain ⟨config, operations, rfl⟩ := reachable
  exact invariant.run operations _ (invariant.powerOn config)

end OperationInvariant

end Handheld.Console
