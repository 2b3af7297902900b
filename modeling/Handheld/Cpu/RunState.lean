import Handheld.Word

/-!
# Running and halted

The processor either executes instructions or waits, after a program has asked for low power, until
an enabled interrupt is requested.
-/

namespace Handheld

/-- Whether the processor executes instructions. -/
inductive RunState where
  | running
  | halted
  deriving DecidableEq, Repr

/-- The state after a look at the enabled and requested interrupts. Any of them ends a halt, even
while interrupts are disabled altogether. -/
def RunState.wakeOn : RunState → Half → RunState
  | .halted, pending => if pending = 0 then .halted else .running
  | .running, _ => .running

end Handheld
