import Handheld.Proofs.Video.Position

/-!
# Advancing the clock in parts

A run of the clock can be interrupted anywhere and go on from there (`Scan.run_add`), since a move
to the boundary ahead is the same move from everywhere before it (`Scan.moveOn_moved`). So only the
sum of the cycles counts, however they are divided into calls (`Clock.advance_additive`). What the
clock does is the loop `Scan.Loops`, in which every turn has a boundary ahead and uses cycles up.
-/

namespace Handheld

namespace Scan

/-- A further call of the clock. A vertical blank that was reported stays reported. -/
def advance (scan : Scan) (cycles : Nat) : Scan :=
  let next := scan.clock.advance scan.io cycles
  { next with enteredVBlank := scan.enteredVBlank || next.enteredVBlank }

/-! ## Turns -/

/-- Without a boundary ahead the clock stands still. -/
theorem run_of_boundary_le_cycle (scan : Scan) (past : scan.clock.boundary ≤ scan.clock.cycle)
    (cycles : Nat) : scan.run cycles = scan := by
  rw [run, if_pos (.inr (Nat.sub_eq_zero_of_le past))]

/-- A turn goes to the boundary ahead, or as far as the cycles last, and what is left is a run from
there. -/
theorem run_turn (scan : Scan) {cycles : Nat} (left : 0 < cycles)
    (ahead : scan.clock.cycle < scan.clock.boundary) :
    scan.run cycles =
      (scan.moveOn (min cycles (scan.clock.boundary - scan.clock.cycle))).run
        (cycles - min cycles (scan.clock.boundary - scan.clock.cycle)) := by
  have same : cycles - min cycles (scan.clock.boundary - scan.clock.cycle) =
      cycles - (scan.clock.boundary - scan.clock.cycle) := by omega
  rw [run, if_neg (by omega), same]

/-! ## What was reported before -/

/-- The scan with an earlier report. -/
def report (scan : Scan) (earlier : Bool) : Scan :=
  { scan with enteredVBlank := earlier || scan.enteredVBlank }

theorem moveOn_report (scan : Scan) (earlier : Bool) (cycles : Nat) :
    (scan.report earlier).moveOn cycles = (scan.moveOn cycles).report earlier := by
  unfold moveOn report
  dsimp only
  split
  · rfl
  · split
    · rw [Bool.or_assoc]
    · rfl

theorem run_report (scan : Scan) (earlier : Bool) (cycles : Nat) :
    (scan.report earlier).run cycles = (scan.run cycles).report earlier := by
  induction cycles using Nat.strongRecOn generalizing scan with
  | ind cycles ih =>
      by_cases past : scan.clock.boundary ≤ scan.clock.cycle
      · rw [run_of_boundary_le_cycle _ past]
        exact run_of_boundary_le_cycle (scan.report earlier) past cycles
      · by_cases left : 0 < cycles
        · have ahead := Nat.lt_of_not_le past
          let amount := min cycles (scan.clock.boundary - scan.clock.cycle)
          calc (scan.report earlier).run cycles
              = ((scan.report earlier).moveOn amount).run (cycles - amount) :=
                run_turn (scan.report earlier) left ahead
            _ = ((scan.moveOn amount).run (cycles - amount)).report earlier := by
                rw [moveOn_report, ih _ (by omega)]
            _ = (scan.run cycles).report earlier := by rw [run_turn _ left ahead]
        · have none : cycles = 0 := by omega
          rw [none, run_zero, run_zero]

theorem run_eq_advance (scan : Scan) (cycles : Nat) : scan.run cycles = scan.advance cycles := by
  have start : report ⟨scan.clock, scan.io, false⟩ scan.enteredVBlank = scan := by
    rw [report, Bool.or_false]
  calc scan.run cycles
      = (report ⟨scan.clock, scan.io, false⟩ scan.enteredVBlank).run cycles := by rw [start]
    _ = scan.advance cycles := run_report _ _ _

/-! ## Interruptions -/

/-- The scan somewhat later in the same line, with no boundary reached. -/
def moved (scan : Scan) (cycles : Nat) : Scan :=
  { scan with clock := { scan.clock with cycle := scan.clock.cycle + cycles } }

theorem moveOn_moved (scan : Scan) (first second : Nat) :
    (scan.moved first).moveOn second = scan.moveOn (first + second) := by
  unfold moveOn
  dsimp only [moved]
  rw [Nat.add_assoc]
  rfl

/-- The boundary ahead stays ahead until it is reached, whatever is spent before it. -/
theorem boundary_moved {scan : Scan} {cycles : Nat}
    (before : scan.clock.cycle + cycles < scan.clock.boundary) :
    (scan.moved cycles).clock.boundary = scan.clock.boundary := by
  have cycle : (scan.moved cycles).clock.cycle = scan.clock.cycle + cycles := rfl
  unfold Clock.boundary at before ⊢
  rw [cycle]
  by_cases drawn : scan.clock.cycle < Clock.hBlankCycle
  · rw [if_pos drawn] at before
    rw [if_pos drawn, if_pos before]
  · rw [if_neg drawn, if_neg (by omega)]

/-- Cycles that end before the boundary ahead can be spent apart from those that come after, since
nothing happens between. -/
theorem run_moved {scan : Scan} {first : Nat}
    (before : scan.clock.cycle + first < scan.clock.boundary) (second : Nat) :
    (scan.moved first).run second = scan.run (first + second) := by
  have boundary := boundary_moved before
  have cycle : (scan.moved first).clock.cycle = scan.clock.cycle + first := rfl
  by_cases both : scan.clock.cycle + (first + second) < scan.clock.boundary
  · rw [run_of_lt_boundary both, run_of_lt_boundary (by rw [boundary, cycle]; omega), cycle,
      Nat.add_assoc]
    rfl
  · have toBoundary : first + (scan.clock.boundary - (scan.clock.cycle + first)) =
        scan.clock.boundary - scan.clock.cycle := by omega
    have left : first + second - (scan.clock.boundary - scan.clock.cycle) =
        second - (scan.clock.boundary - (scan.clock.cycle + first)) := by omega
    rw [run_of_boundary_le (by omega) (Nat.le_of_not_lt both),
      run_of_boundary_le (by rw [boundary, cycle]; omega) (by rw [boundary, cycle]; omega),
      boundary, cycle, moveOn_moved, toBoundary, left]

/-- A run can be interrupted anywhere and taken up again. By induction on the boundaries that the
first part passes. -/
theorem run_add (scan : Scan) (first second : Nat) :
    scan.run (first + second) = (scan.run first).run second := by
  induction first using Nat.strongRecOn generalizing scan with
  | ind first ih =>
      by_cases past : scan.clock.boundary ≤ scan.clock.cycle
      · simp only [run_of_boundary_le_cycle _ past]
      · have ahead := Nat.lt_of_not_le past
        by_cases before : scan.clock.cycle + first < scan.clock.boundary
        · rw [run_of_lt_boundary before]
          exact (run_moved before second).symm
        · have reached := Nat.le_of_not_lt before
          have left : first + second - (scan.clock.boundary - scan.clock.cycle) =
              first - (scan.clock.boundary - scan.clock.cycle) + second := by omega
          rw [run_of_boundary_le ahead reached,
            run_of_boundary_le ahead (Nat.le_trans reached (by omega)), left]
          exact ih _ (by omega) _

theorem advance_add (scan : Scan) (first second : Nat) :
    scan.advance (first + second) = (scan.advance first).advance second := by
  rw [← run_eq_advance, ← run_eq_advance, ← run_eq_advance, run_add]

/-- Only the sum of the cycles counts. -/
theorem foldl_advance (scan : Scan) (calls : List Nat) :
    calls.foldl advance scan = scan.advance calls.sum := by
  induction calls generalizing scan with
  | nil => rw [← run_eq_advance, List.sum_nil, run_zero, List.foldl_nil]
  | cons first rest ih => rw [List.foldl_cons, ih, List.sum_cons, advance_add]

/-! ## The loop -/

/-- The loop of the clock: as long as cycles are left, it moves on to the boundary ahead, or as far
as they last. Without a boundary ahead there is no turn. -/
inductive Loops : Scan → Nat → Scan → Prop
  | done (scan : Scan) : Loops scan 0 scan
  | turn {scan final : Scan} {cycles : Nat} (left : 0 < cycles)
    (ahead : scan.clock.cycle < scan.clock.boundary)
    (rest : Loops (scan.moveOn (min cycles (scan.clock.boundary - scan.clock.cycle)))
      (cycles - min cycles (scan.clock.boundary - scan.clock.cycle)) final) :
    Loops scan cycles final

/-- Every turn ends within a line, so there is a boundary ahead again, and the loop has a next turn
to take. -/
theorem inLine_moveOn {scan : Scan} {cycles : Nat}
    (within : scan.clock.cycle + cycles ≤ scan.clock.boundary) :
    (scan.moveOn cycles).clock.cycle < Clock.cyclesPerLine := by
  have ordered : Clock.hBlankCycle < Clock.cyclesPerLine := by decide
  unfold moveOn
  dsimp only
  split
  · rename_i reached
    show scan.clock.cycle + cycles < Clock.cyclesPerLine
    omega
  · split
    · show 0 < Clock.cyclesPerLine
      decide
    · show scan.clock.cycle + cycles < Clock.cyclesPerLine
      unfold Clock.boundary at within
      split at within <;> omega

/-- Within a line the loop ends, and a run is what it ends with. By induction on the cycles that are
left, of which every turn uses some. -/
theorem loops_run {scan : Scan} (inLine : scan.clock.cycle < Clock.cyclesPerLine) (cycles : Nat) :
    Loops scan cycles (scan.run cycles) := by
  induction cycles using Nat.strongRecOn generalizing scan with
  | ind cycles ih =>
      by_cases left : 0 < cycles
      · have ahead := Clock.cycle_lt_boundary inLine
        refine .turn left ahead ?_
        rw [run_turn _ left ahead]
        exact ih _ (by omega) (inLine_moveOn (by omega))
      · have none : cycles = 0 := by omega
        rw [none, run_zero]
        exact .done scan

theorem Loops.eq_run {scan final : Scan} {cycles : Nat} (loops : Loops scan cycles final) :
    final = scan.run cycles := by
  induction loops with
  | done scan => rw [run_zero]
  | turn left ahead _ ih => rw [run_turn _ left ahead, ih]

end Scan

/-- Advancing a clock by some cycles and then by others is advancing it by all of them, and a
vertical blank that began in one part began in the whole. So the result does not depend on how the
cycles are divided into calls. The loop of the clock ends for any number of cycles, and with this
result only. -/
theorem Clock.advance_additive {clock : Clock} (inLine : clock.cycle < 1232) (io : IoRegisters) :
    (∀ first second,
      let earlier := clock.advance io first
      let later := earlier.clock.advance earlier.io second
      clock.advance io (first + second) =
        ⟨later.clock, later.io, earlier.enteredVBlank || later.enteredVBlank⟩) ∧
    (∀ calls : List Nat,
      calls.foldl Scan.advance ⟨clock, io, false⟩ = clock.advance io calls.sum) ∧
    ∀ cycles final,
      Scan.Loops ⟨clock, io, false⟩ cycles final ↔ final = clock.advance io cycles := by
  refine ⟨fun first second => ?_, fun calls => ?_, fun cycles final => ⟨?_, ?_⟩⟩
  · exact (Scan.run_add _ first second).trans (Scan.run_eq_advance _ second)
  · rw [Scan.foldl_advance, ← Scan.run_eq_advance]
    rfl
  · exact fun loops => loops.eq_run
  · rintro rfl
    exact Scan.loops_run inLine cycles

/-- Three calls that end on a horizontal blank, in it and on the first line of the vertical
blank. -/
theorem Clock.advance_into_vBlank :
    let clock : Clock := ⟨958, 159, 0⟩
    clock.cycle < 1232 ∧ (clock.advance .powerOn 274).enteredVBlank = true ∧
      [2, 100, 172].foldl Scan.advance ⟨clock, .powerOn, false⟩ = clock.advance .powerOn 274 := by
  intro clock
  have inLine : clock.cycle < 1232 := by decide
  exact ⟨inLine, by decide +kernel, (advance_additive inLine .powerOn).2.1 [2, 100, 172]⟩

end Handheld
