import Handheld.Proofs.Video.Registers

/-!
# Where the clock is

The clock that has counted a number of cycles since power-on has a closed form (`Clock.after`), and
counting on from there adds up (`Clock.clock_advance_after`), whatever the registers say. No more
cycles than a horizontal blank has reach one boundary at most, and what happens at a boundary that
is reached happens once (`Clock.passes_advance`).
-/

namespace Handheld

namespace Clock

theorem cyclesPerLine_eq : cyclesPerLine = 1232 := rfl

theorem hBlankCycle_eq : hBlankCycle = 960 := rfl

theorem linesPerFrame_eq : linesPerFrame = 228 := rfl

theorem vBlankLine_eq : vBlankLine = 160 := rfl

/-- There is always a boundary ahead of a clock within a line. -/
theorem cycle_lt_boundary {clock : Clock} (inLine : clock.cycle < cyclesPerLine) :
    clock.cycle < clock.boundary := by
  unfold boundary
  split <;> assumption

end Clock

/-! ## Moves -/

namespace Scan

variable {scan : Scan} {cycles : Nat}

@[simp] theorem run_zero (scan : Scan) : scan.run 0 = scan := by
  unfold run
  exact if_pos (.inl rfl)

/-- Cycles that end before the boundary ahead change nothing but the position in the line: no
register is stored and nothing is reported. -/
theorem run_of_lt_boundary (before : scan.clock.cycle + cycles < scan.clock.boundary) :
    scan.run cycles =
      { scan with clock := { scan.clock with cycle := scan.clock.cycle + cycles } } := by
  have ahead : scan.clock.cycle < scan.clock.boundary := by omega
  unfold run
  dsimp only
  split
  · rename_i still
    have none : cycles = 0 := by omega
    rw [none, Nat.add_zero]
  · rename_i moves
    have apart : scan.clock.cycle + cycles ≠ Clock.hBlankCycle ∧
        scan.clock.cycle + cycles ≠ Clock.cyclesPerLine := by
      have ordered : Clock.hBlankCycle < Clock.cyclesPerLine := by decide
      unfold Clock.boundary at before
      split at before <;> omega
    have all : min cycles (scan.clock.boundary - scan.clock.cycle) = cycles := by omega
    have rest : cycles - (scan.clock.boundary - scan.clock.cycle) = 0 := by omega
    rw [all, rest, run_zero, moveOn]
    simp only [apart, ↓reduceIte]

/-- Cycles that reach the boundary ahead are a move to this boundary and then a run over what is
left of them. -/
theorem run_of_boundary_le (ahead : scan.clock.cycle < scan.clock.boundary)
    (reached : scan.clock.boundary ≤ scan.clock.cycle + cycles) :
    scan.run cycles =
      (scan.moveOn (scan.clock.boundary - scan.clock.cycle)).run
        (cycles - (scan.clock.boundary - scan.clock.cycle)) := by
  have first : min cycles (scan.clock.boundary - scan.clock.cycle) =
      scan.clock.boundary - scan.clock.cycle := by omega
  rw [run, if_neg (by omega), first]

/-- In the drawn part of a line the boundary ahead is the horizontal blank, and a move to it begins
the blank. -/
theorem moveOn_hBlank (drawn : scan.clock.cycle < Clock.hBlankCycle) :
    scan.moveOn (scan.clock.boundary - scan.clock.cycle) =
      { scan with
        clock := { scan.clock with cycle := Clock.hBlankCycle }, io := scan.io.beginHBlank } := by
  have ahead : scan.clock.boundary = Clock.hBlankCycle := if_pos drawn
  have position : scan.clock.cycle + (Clock.hBlankCycle - scan.clock.cycle) = Clock.hBlankCycle :=
    Nat.add_sub_cancel' (Nat.le_of_lt drawn)
  simp only [moveOn, ahead, position, ↓reduceIte]

/-- In the horizontal blank the boundary ahead is the next line, and a move to this boundary begins
the line. -/
theorem moveOn_line (blank : Clock.hBlankCycle ≤ scan.clock.cycle)
    (inLine : scan.clock.cycle < Clock.cyclesPerLine) :
    scan.moveOn (scan.clock.boundary - scan.clock.cycle) =
      { clock := scan.clock.startLine, io := scan.io.beginLine scan.clock.nextLine,
        enteredVBlank := scan.enteredVBlank || scan.clock.nextLine == Clock.vBlankLine } := by
  have ahead : scan.clock.boundary = Clock.cyclesPerLine := if_neg (Nat.not_lt_of_le blank)
  have position : scan.clock.cycle + (Clock.cyclesPerLine - scan.clock.cycle) =
      Clock.cyclesPerLine := Nat.add_sub_cancel' (Nat.le_of_lt inLine)
  have apart : Clock.cyclesPerLine ≠ Clock.hBlankCycle := by decide
  simp only [moveOn, ahead, position, apart, ↓reduceIte]

end Scan

/-! ## The closed form -/

namespace Clock

/-- The clock that has counted a number of cycles since power-on. A vertical blank begins when 160
lines are done, and again with every further frame. -/
def after (cycles : Nat) : Clock where
  cycle := cycles % cyclesPerLine
  line := cycles / cyclesPerLine % linesPerFrame
  frame := (cycles / cyclesPerLine + (linesPerFrame - vBlankLine)) / linesPerFrame

theorem after_zero : after 0 = powerOn := rfl

/-- The cycle of a clock is one of its line. -/
theorem cycle_after_lt (elapsed : Nat) : (after elapsed).cycle < cyclesPerLine :=
  Nat.mod_lt _ (by decide)

/-- Within a line only the position in the line moves on. Line and frame are those of the quotients,
which stay. -/
theorem after_add_of_lt {elapsed cycles : Nat}
    (inLine : (after elapsed).cycle + cycles < cyclesPerLine) :
    after (elapsed + cycles) = { after elapsed with cycle := (after elapsed).cycle + cycles } := by
  simp only [after, cyclesPerLine_eq] at inLine ⊢
  have sameLine : (elapsed + cycles) / 1232 = elapsed / 1232 := by omega
  have position : (elapsed + cycles) % 1232 = elapsed % 1232 + cycles := by omega
  rw [sameLine, position]

/-- The next line is the number of whole lines that have passed, and one, counted around within a
frame. -/
theorem nextLine_after (elapsed : Nat) :
    (after elapsed).nextLine = (elapsed / cyclesPerLine + 1) % linesPerFrame := by
  unfold nextLine
  split <;>
    rename_i last <;>
    simp only [after, linesPerFrame_eq] at last ⊢ <;>
    omega

/-- At the end of a line the next one begins, and after the last line of a frame the next frame.
Quotients and remainders go on together. -/
theorem startLine_after {elapsed cycles : Nat}
    (atEnd : (after elapsed).cycle + cycles = cyclesPerLine) :
    (after elapsed).startLine = after (elapsed + cycles) := by
  have lines : (elapsed + cycles) / cyclesPerLine = elapsed / cyclesPerLine + 1 := by
    simp only [after, cyclesPerLine_eq] at atEnd ⊢
    omega
  have position : (elapsed + cycles) % cyclesPerLine = 0 := by
    simp only [after, cyclesPerLine_eq] at atEnd ⊢
    omega
  have frames : (if (after elapsed).nextLine = vBlankLine then (after elapsed).frame + 1
      else (after elapsed).frame) =
      (elapsed / cyclesPerLine + 1 + (linesPerFrame - vBlankLine)) / linesPerFrame := by
    rw [nextLine_after]
    split <;>
      rename_i blank <;>
      simp only [after, linesPerFrame_eq, vBlankLine_eq] at blank ⊢ <;>
      omega
  rw [startLine, frames, nextLine_after, after, lines, position]

end Clock

/-- A run over some cycles moves a clock that has counted all cycles so far by exactly these. By
induction on the boundaries that it passes. -/
theorem Scan.clock_run (scan : Scan) {elapsed : Nat} (counted : scan.clock = .after elapsed)
    (cycles : Nat) : (scan.run cycles).clock = .after (elapsed + cycles) := by
  induction cycles using Nat.strongRecOn generalizing scan elapsed with
  | ind cycles ih =>
      have inLine : scan.clock.cycle < Clock.cyclesPerLine := by
        rw [counted]
        exact Clock.cycle_after_lt elapsed
      have ahead := Clock.cycle_lt_boundary inLine
      by_cases before : scan.clock.cycle + cycles < scan.clock.boundary
      · have short : (Clock.after elapsed).cycle + cycles < Clock.cyclesPerLine := by
          rw [← counted]
          refine Nat.lt_of_lt_of_le before ?_
          unfold Clock.boundary
          split <;> decide
        rw [run_of_lt_boundary before, Clock.after_add_of_lt short, counted]
      · have reached := Nat.le_of_not_lt before
        rw [run_of_boundary_le ahead reached]
        have total : elapsed + cycles = elapsed + (scan.clock.boundary - scan.clock.cycle) +
            (cycles - (scan.clock.boundary - scan.clock.cycle)) := by omega
        rw [total]
        refine ih _ (by omega) _ ?_
        by_cases drawn : scan.clock.cycle < Clock.hBlankCycle
        · have boundary : scan.clock.boundary = Clock.hBlankCycle := if_pos drawn
          have position : (Clock.after elapsed).cycle + (Clock.hBlankCycle - scan.clock.cycle) =
              Clock.hBlankCycle := by
            rw [← counted]
            omega
          have short : (Clock.after elapsed).cycle + (Clock.hBlankCycle - scan.clock.cycle) <
              Clock.cyclesPerLine := by
            rw [position]
            decide
          rw [moveOn_hBlank drawn, boundary, Clock.after_add_of_lt short, position, counted]
        · have boundary : scan.clock.boundary = Clock.cyclesPerLine := if_neg drawn
          rw [moveOn_line (Nat.le_of_not_lt drawn) inLine, counted]
          refine Clock.startLine_after ?_
          rw [← counted]
          omega

/-- No time, no change. -/
theorem Clock.advance_zero (clock : Clock) (io : IoRegisters) :
    clock.advance io 0 = ⟨clock, io, false⟩ := Scan.run_zero _

/-- The clock adds up the cycles it is advanced by. -/
theorem Clock.clock_advance_after (elapsed cycles : Nat) (io : IoRegisters) :
    ((after elapsed).advance io cycles).clock = after (elapsed + cycles) :=
  Scan.clock_run ⟨after elapsed, io, false⟩ rfl cycles

/-! ## Boundaries -/

/-- A clock and its registers before and after a move that reaches one boundary at most. -/
inductive Clock.Passes (before : Clock) (io : IoRegisters) : Clock → IoRegisters → Prop
  /-- No boundary is reached. -/
  | nothing {after : Clock} (line : after.line = before.line) (frame : after.frame = before.frame)
    (side : after.cycle < hBlankCycle ↔ before.cycle < hBlankCycle) : Passes before io after io
  /-- The horizontal blank of the line begins. -/
  | hBlank {after : Clock} (line : after.line = before.line) (frame : after.frame = before.frame)
    (drawn : before.cycle < hBlankCycle) (blank : hBlankCycle ≤ after.cycle) :
    Passes before io after io.beginHBlank
  /-- The horizontal blank ends with the line, and the next line begins. -/
  | line {after : Clock} (line : after.line = before.nextLine)
    (frame : after.frame = if after.line = vBlankLine then before.frame + 1 else before.frame)
    (blank : hBlankCycle ≤ before.cycle) (drawn : after.cycle < hBlankCycle) :
    Passes before io after (io.beginLine after.line)

/-- No more cycles than a horizontal blank has reach one boundary at most, and a tick takes far
fewer than that. -/
theorem Clock.passes_advance {clock : Clock} (inLine : clock.cycle < cyclesPerLine)
    (io : IoRegisters) {cycles : Nat} (few : cycles ≤ cyclesPerLine - hBlankCycle) :
    clock.Passes io (clock.advance io cycles).clock (clock.advance io cycles).io := by
  rw [cyclesPerLine_eq, hBlankCycle_eq] at few
  have ahead := cycle_lt_boundary inLine
  unfold advance
  by_cases before : clock.cycle + cycles < clock.boundary
  · rw [Scan.run_of_lt_boundary before]
    refine .nothing rfl rfl ?_
    show clock.cycle + cycles < hBlankCycle ↔ clock.cycle < hBlankCycle
    unfold boundary at before
    split at before <;> omega
  · have reached := Nat.le_of_not_lt before
    rw [Scan.run_of_boundary_le ahead reached]
    by_cases drawn : clock.cycle < hBlankCycle
    · have boundary : clock.boundary = hBlankCycle := if_pos drawn
      rw [Scan.moveOn_hBlank drawn, Scan.run_of_lt_boundary]
      · exact .hBlank rfl rfl drawn (Nat.le_add_right _ _)
      · show hBlankCycle + (cycles - (clock.boundary - clock.cycle)) < cyclesPerLine
        rw [boundary]
        rw [hBlankCycle_eq] at drawn ⊢
        rw [cyclesPerLine_eq]
        omega
    · have boundary : clock.boundary = cyclesPerLine := if_neg drawn
      have blank := Nat.le_of_not_lt drawn
      have short : 0 + (cycles - (clock.boundary - clock.cycle)) < hBlankCycle := by
        rw [hBlankCycle_eq]
        omega
      rw [Scan.moveOn_line blank inLine, Scan.run_of_lt_boundary short]
      exact .line rfl rfl blank short

end Handheld
