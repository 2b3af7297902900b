import Handheld.Word

/-!
# Breakpoints

A set of addresses, kept in ascending order without repetitions.
-/

namespace Handheld

/-- A set of addresses. -/
structure Breakpoints where
  /-- The addresses in ascending order. -/
  toList : List Word
  deriving DecidableEq, Repr

namespace Breakpoints

/-- No breakpoint. -/
def empty : Breakpoints := ⟨[]⟩

/-- Puts an address into its place in an ascending list; an address that is there stays. -/
def insertAddress (address : Word) : List Word → List Word
  | [] => [address]
  | next :: rest =>
    if address < next then address :: next :: rest
    else if address = next then next :: rest
    else next :: insertAddress address rest

/-- Adds an address. -/
def insert (breakpoints : Breakpoints) (address : Word) : Breakpoints :=
  ⟨insertAddress address breakpoints.toList⟩

/-- Removes an address. -/
def erase (breakpoints : Breakpoints) (address : Word) : Breakpoints :=
  ⟨breakpoints.toList.filter (· != address)⟩

/-- Whether an address is in the set. -/
def contains (breakpoints : Breakpoints) (address : Word) : Bool :=
  breakpoints.toList.contains address

end Breakpoints

end Handheld
