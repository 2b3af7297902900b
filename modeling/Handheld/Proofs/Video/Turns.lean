import Handheld.Proofs.CheckedArithmetic
import Handheld.Proofs.Video.Advance

/-!
# Turns of the clock

A turn of the clock's loop with differences that are refused below zero (`Scan.checkedTurn`), and
the states that the loop comes to by such turns (`Scan.Underway`). A clock within its line is within
its line before every turn, so that a boundary is ahead of it and no turn is refused
(`Scan.Underway.turn_of_inLine`).
-/

namespace Handheld.Scan

/-- A turn of the loop: the scan moves on to the boundary ahead, or as far as the cycles that are
left, and some of them remain. -/
def checkedTurn (scan : Scan) (left : Nat) : Option (Scan × Nat) := do
  let ahead ← Nat.psub scan.clock.boundary scan.clock.cycle
  let amount := min left ahead
  let rest ← Nat.psub left amount
  return (scan.moveOn amount, rest)

/-- The states that the loop comes to, each with the cycles that are left. -/
inductive Underway (start : Scan) (cycles : Nat) : Scan → Nat → Prop
  | start : Underway start cycles start cycles
  | turn {scan next : Scan} {left rest : Nat} (underway : Underway start cycles scan left)
    (goes : 0 < left) (turned : scan.checkedTurn left = some (next, rest)) :
    Underway start cycles next rest

theorem checkedTurn_of_lt_boundary {scan : Scan}
    (ahead : scan.clock.cycle < scan.clock.boundary) (left : Nat) :
    scan.checkedTurn left =
      some (scan.moveOn (min left (scan.clock.boundary - scan.clock.cycle)),
        left - min left (scan.clock.boundary - scan.clock.cycle)) := by
  have distance : Nat.psub scan.clock.boundary scan.clock.cycle =
      some (scan.clock.boundary - scan.clock.cycle) := Nat.psub_eq_sub (Nat.le_of_lt ahead)
  have rest : Nat.psub left (min left (scan.clock.boundary - scan.clock.cycle)) =
      some (left - min left (scan.clock.boundary - scan.clock.cycle)) :=
    Nat.psub_eq_sub (Nat.min_le_left _ _)
  simp only [checkedTurn, distance, rest, Option.bind_eq_bind, Option.bind_some]
  rfl

namespace Underway

variable {start scan : Scan} {cycles left : Nat}

/-- Before every turn the clock is within its line, and what is left to do leads to the same end as
all of it from the start. By induction on the turns. -/
theorem inLine_and_run (underway : Underway start cycles scan left)
    (inLine : start.clock.cycle < Clock.cyclesPerLine) :
    scan.clock.cycle < Clock.cyclesPerLine ∧ scan.run left = start.run cycles := by
  induction underway with
  | start => exact ⟨inLine, rfl⟩
  | turn _ goes turned ih =>
      obtain ⟨within, same⟩ := ih
      have ahead := Clock.cycle_lt_boundary within
      rw [checkedTurn_of_lt_boundary ahead] at turned
      cases turned
      exact ⟨inLine_moveOn (by omega), (run_turn _ goes ahead).symm.trans same⟩

/-- Every turn has a boundary ahead, is not refused for a difference below zero, and uses cycles up,
so that there are finitely many. -/
theorem turn_of_inLine (underway : Underway start cycles scan left)
    (inLine : start.clock.cycle < Clock.cyclesPerLine) (goes : 0 < left) :
    scan.clock.cycle < scan.clock.boundary ∧
      ∃ next rest, scan.checkedTurn left = some (next, rest) ∧ rest < left ∧
        next.run rest = start.run cycles := by
  obtain ⟨within, same⟩ := underway.inLine_and_run inLine
  have ahead := Clock.cycle_lt_boundary within
  have turned := checkedTurn_of_lt_boundary ahead left
  have further := (underway.turn goes turned).inLine_and_run inLine
  exact ⟨ahead, _, _, turned, by omega, further.2⟩

end Underway

end Handheld.Scan
