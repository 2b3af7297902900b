import Handheld.Debug.Debugger
import Mathlib.Data.List.DropRight

/-!
# What a history shows

A history shows the newest of the addresses that were added to it, as many as its capacity allows
(`History.Holds`). An address that is added comes to the back, and if the history was full the one
at the front is given up for it, so that the newest ones stay (`History.Holds.push`). A tick adds
the address of the instruction it executed, if it executed one and instrumentation is on
(`History.Holds.afterTick`).
-/

namespace Handheld

/-- The last elements of a list without the first of them: one element fewer, counted from the
end. -/
theorem drop_one_rtake {α : Type} {list : List α} {count : Nat}
    (long : count + 1 ≤ list.length) : (list.rtake (count + 1)).drop 1 = list.rtake count := by
  have position : list.length - (count + 1) + 1 = list.length - count := by omega
  rw [List.rtake, List.drop_drop, position, List.rtake]

namespace History

/-- Room is made by giving up the oldest address, and only when the history is full. Otherwise
nothing is given up. -/
theorem toList_makeRoom (history : History) :
    history.makeRoom.toList =
      if history.toList.length = history.capacity then history.toList.drop 1
      else history.toList := by
  unfold makeRoom toList
  rw [Array.length_toList]
  split
  · rw [Array.drop, Array.toList_extract, ← Array.length_toList, List.extract_eq_take_drop,
      ← List.length_drop, List.take_length]
  · rfl

/-- An address comes to the back of what there is room for. A history that keeps nothing stays as it
is. -/
theorem toList_push (history : History) (address : Word) :
    (history.push address).toList =
      if 0 < history.capacity then history.makeRoom.toList ++ [address] else history.toList := by
  unfold push
  split
  · exact Array.toList_push
  · rfl

/-- How much is kept never changes. -/
theorem capacity_push (history : History) (address : Word) :
    (history.push address).capacity = history.capacity := by
  unfold push
  split <;> rfl

/-- A history of the addresses that were added to it, the earliest first: it has the capacity
`limit`, and its entries are the last `limit` addresses, or all of them if there are fewer. -/
structure Holds (history : History) (limit : Nat) (added : List Word) : Prop where
  capacity : history.capacity = limit
  entries : history.toList = added.rtake limit

namespace Holds

variable {history : History} {limit : Nat} {added : List Word}

/-- At the start nothing has been added. -/
theorem empty (limit : Nat) : Holds (.empty limit) limit [] := ⟨rfl, List.rtake_nil _ |>.symm⟩

/-- A history has as many entries as there were additions, or as many as it has room for. -/
theorem length_eq (holds : Holds history limit added) :
    history.toList.length = min limit added.length := by
  rw [holds.entries, List.rtake, List.length_drop]
  omega

/-- With room made for one more, a history holds one address fewer than its capacity allows: the
last ones that were added. -/
theorem toList_makeRoom {room : Nat} (holds : Holds history (room + 1) added) :
    history.makeRoom.toList = added.rtake room := by
  have length := holds.length_eq
  rw [History.toList_makeRoom, holds.capacity, length]
  split
  case isTrue full =>
    have long : room + 1 ≤ added.length := by omega
    rw [holds.entries, drop_one_rtake long]
  case isFalse notFull =>
    -- Nothing has been given up so far, and nothing has to be.
    have whole : added.length - (room + 1) = 0 := by omega
    have stillWhole : added.length - room = 0 := by omega
    rw [holds.entries, List.rtake, List.rtake, whole, stillWhole]

/-- An address that is added is the newest, and at most the oldest one goes. -/
theorem push (holds : Holds history limit added) (address : Word) :
    Holds (history.push address) limit (added ++ [address]) := by
  refine ⟨(history.capacity_push address).trans holds.capacity, ?_⟩
  rw [toList_push, holds.capacity]
  cases limit with
  | zero => rw [if_neg (Nat.lt_irrefl 0), holds.entries, List.rtake_zero, List.rtake_zero]
  | succ room => rw [if_pos room.succ_pos, holds.toList_makeRoom, List.rtake_concat_succ]

/-- Only with instrumentation on does a tick add to the history, and only if it executed an
instruction. -/
theorem afterTick {debugger : Debugger} (holds : debugger.history.Holds limit added)
    (committed? : Option Word) (next : Word) (set : InstructionSet) :
    (debugger.afterTick committed? next set).history.Holds limit
      (added ++ if debugger.enabled then committed?.toList else []) := by
  unfold Debugger.afterTick
  dsimp only
  change (ite (debugger.enabled = true) _ _ : Debugger).history.Holds _ _
  split
  · cases committed? with
    | none =>
        rw [Option.toList_none, List.append_nil]
        exact holds
    | some pc => exact holds.push pc
  · rw [List.append_nil]
    exact holds

end Holds

end History

end Handheld
