import Handheld.Cpu.InstructionSet
import Handheld.Debug.Breakpoints
import Handheld.Debug.History

/-!
# The debugger

Breakpoints for each instruction set, since one address may hold an instruction of either; whether
execution is held; the addresses of the next and of the last instruction; and the history of
executed addresses. With instrumentation off there is neither history nor any new stop.
-/

namespace Handheld

/-- The state of the debugger. -/
structure Debugger where
  armBreakpoints : Breakpoints
  thumbBreakpoints : Breakpoints
  /-- Whether breakpoints are checked and the history is kept. -/
  enabled : Bool
  /-- Whether execution is held. -/
  stopped : Bool
  history : History
  /-- The address of the next instruction. -/
  executingPc : Word
  /-- The address of the last executed instruction. -/
  lastPc : Word
  deriving DecidableEq, Repr

namespace Debugger

/-- A debugger without breakpoints that holds nothing. -/
def new (enabled : Bool) (capacity : Nat) : Debugger where
  armBreakpoints := .empty
  thumbBreakpoints := .empty
  enabled
  stopped := false
  history := .empty capacity
  executingPc := 0
  lastPc := 0

/-- The capacity of the history unless another is asked for. -/
def defaultCapacity : Nat := 64

/-- The same breakpoints and settings, with everything else as at the start. -/
def carryOver (debugger : Debugger) : Debugger :=
  { new debugger.enabled debugger.history.capacity with
    armBreakpoints := debugger.armBreakpoints
    thumbBreakpoints := debugger.thumbBreakpoints }

/-- The breakpoints of an instruction set. -/
def breakpoints (debugger : Debugger) : InstructionSet → Breakpoints
  | .arm => debugger.armBreakpoints
  | .thumb => debugger.thumbBreakpoints

/-- Changes the breakpoints of an instruction set. -/
def modifyBreakpoints (debugger : Debugger) (set : InstructionSet)
    (f : Breakpoints → Breakpoints) : Debugger :=
  match set with
  | .arm => { debugger with armBreakpoints := f debugger.armBreakpoints }
  | .thumb => { debugger with thumbBreakpoints := f debugger.thumbBreakpoints }

/-- Adds a breakpoint. -/
def addBreakpoint (debugger : Debugger) (set : InstructionSet) (address : Word) : Debugger :=
  debugger.modifyBreakpoints set (·.insert address)

/-- Removes a breakpoint. -/
def removeBreakpoint (debugger : Debugger) (set : InstructionSet) (address : Word) : Debugger :=
  debugger.modifyBreakpoints set (·.erase address)

/-- Notes the address of the next instruction. -/
def setExecutingPc (debugger : Debugger) (address : Word) : Debugger :=
  { debugger with executingPc := address }

/-- Notes where a tick has left the processor and which instruction it executed, if any. -/
def note (debugger : Debugger) (committed? : Option Word) (next : Word) : Debugger :=
  { debugger with executingPc := next, lastPc := committed?.getD debugger.lastPc }

/-- Adds the executed instruction to the history. -/
def record (debugger : Debugger) (committed? : Option Word) : Debugger :=
  match committed? with
  | some pc => { debugger with history := debugger.history.push pc }
  | none => debugger

/-- Follows a tick that executed the instruction at `committed?`, if any, and has left the
processor at `next` in the given instruction set. -/
def afterTick (debugger : Debugger) (committed? : Option Word) (next : Word)
    (set : InstructionSet) : Debugger :=
  let noted := debugger.note committed? next
  if noted.enabled then
    let recorded := noted.record committed?
    { recorded with stopped := recorded.stopped || (recorded.breakpoints set).contains next }
  else noted

/-- Whether a tick is reported as having stopped execution. -/
def reportsStop (debugger : Debugger) : Bool := debugger.enabled && debugger.stopped

end Debugger

end Handheld
