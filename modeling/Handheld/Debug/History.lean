import Handheld.Word

/-!
# A bounded history

A queue of the last addresses of a sequence, as many as the capacity allows. An address is added at
the back, and a full queue first gives up the one at its front.
-/

namespace Handheld

/-- The newest addresses of a sequence. -/
structure History where
  /-- How many addresses are kept. -/
  capacity : Nat
  /-- The addresses that are kept, oldest first. -/
  entries : Array Word
  deriving DecidableEq, Repr

namespace History

/-- A history without addresses. -/
def empty (capacity : Nat) : History := ⟨capacity, #[]⟩

/-- The addresses that are kept, oldest first. -/
def toList (history : History) : List Word := history.entries.toList

/-- The addresses without the oldest one if there are already as many as the capacity allows. -/
def makeRoom (history : History) : Array Word :=
  if history.entries.size = history.capacity then history.entries.drop 1 else history.entries

/-- Adds an address. A history without capacity stays empty. -/
def push (history : History) (address : Word) : History :=
  if 0 < history.capacity then { history with entries := history.makeRoom.push address }
  else history

end History

end Handheld
