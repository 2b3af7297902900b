import Handheld.Proofs.Memory.Peripherals
import Handheld.Proofs.Video.Clock

/-!
# The registers that show the clock

The clock stays within the lines of a frame and the cycles of a line, and the line counter and the
status register show where it is (`Clock.ShownBy`). A move up to the boundary ahead keeps that
(`Clock.ShownBy.moveOn`), so any number of cycles does (`Clock.ShownBy.advance`), and so does
whatever leaves the hardware's part of the registers alone (`Clock.ShownBy.of_sameHardwareState`).
-/

namespace Handheld

namespace VideoStatus

/-- Assigning to a mask sets the bits of the mask alike and leaves the others. -/
theorem getLsbD_assign (status mask : Half) (value : Bool) {i : Nat} (inHalf : i < 16) :
    (assign status mask value).getLsbD i =
      if mask.getLsbD i then value else status.getLsbD i := by
  cases value with
  | false =>
      rw [assign, if_neg Bool.false_ne_true, BitVec.getLsbD_and, BitVec.getLsbD_not]
      cases mask.getLsbD i <;> simp [inHalf]
  | true =>
      rw [assign, if_pos rfl, BitVec.getLsbD_or]
      cases mask.getLsbD i <;> simp

variable (status : Half) (line : Nat)

/-- A new line ends the horizontal blank and begins or ends the vertical blank on two lines. All
other bits, but for the match, are left to the program. -/
theorem getLsbD_atLine {i : Nat} (inHalf : i < 16) (notMatch : lineMatch.getLsbD i = false) :
    (atLine status line).getLsbD i =
      if vBlank.getLsbD i = true ∧ line = Clock.vBlankLine then true
      else if vBlank.getLsbD i = true ∧ line = Clock.vBlankEndLine then false
      else if hBlank.getLsbD i then false
      else status.getLsbD i := by
  unfold atLine
  dsimp only
  rw [getLsbD_assign _ _ _ inHalf, notMatch, if_neg Bool.false_ne_true]
  split
  · rename_i begins
    rw [getLsbD_assign _ _ _ inHalf, getLsbD_assign _ _ _ inHalf]
    cases vBlank.getLsbD i <;> simp [begins, Clock.vBlankLine, Clock.vBlankEndLine]
  · rename_i notBegin
    split
    · rename_i ends
      rw [getLsbD_assign _ _ _ inHalf, getLsbD_assign _ _ _ inHalf]
      cases vBlank.getLsbD i <;> simp [ends, Clock.vBlankLine, Clock.vBlankEndLine]
    · rename_i notEnd
      rw [getLsbD_assign _ _ _ inHalf]
      simp only [notBegin, notEnd, and_false, ↓reduceIte]

/-- The vertical blank bit is set as line 160 starts, cleared as line 227 starts, and kept by every
other line. -/
theorem vBlank_atLine :
    (atLine status line).getLsbD 0 =
      if line = Clock.vBlankLine then true
      else if line = Clock.vBlankEndLine then false
      else status.getLsbD 0 := by
  have vertical : vBlank.getLsbD 0 = true := by decide
  have horizontal : hBlank.getLsbD 0 = false := by decide
  rw [getLsbD_atLine _ _ (by decide) (by decide)]
  simp only [vertical, horizontal, true_and, Bool.false_eq_true, ↓reduceIte]

/-- Every line starts outside of the horizontal blank. -/
theorem hBlank_atLine : (atLine status line).getLsbD 1 = false := by
  have vertical : vBlank.getLsbD 1 = false := by decide
  have horizontal : hBlank.getLsbD 1 = true := by decide
  rw [getLsbD_atLine _ _ (by decide) (by decide)]
  simp only [vertical, horizontal, false_and, Bool.false_eq_true, ↓reduceIte]

end VideoStatus

namespace IoRegisters

variable (io : IoRegisters) (line : Nat)

/-- The start of a horizontal blank reaches the display status and the request register alone. -/
theorem readHalf_beginHBlank_of_ne {other : IoOffset}
    (notStatus : other.even ≠ IoOffset.dispstat.even)
    (notRequests : other.even ≠ IoOffset.interruptFlags.even) :
    io.beginHBlank.readHalf other = io.readHalf other := by
  unfold beginHBlank
  rw [readHalf_requestIf_of_ne _ _ _ notRequests, readHalf_storeHalf_of_ne _ notStatus]

/-- It sets the horizontal blank bit of the display status. -/
theorem videoStatus_beginHBlank :
    io.beginHBlank.videoStatus = VideoStatus.assign io.videoStatus VideoStatus.hBlank true := by
  unfold beginHBlank
  rw [videoStatus, readHalf_requestIf_of_ne _ _ _ (by decide), readHalf_storeHalf_self]

/-- The start of a line reaches the line counter, the display status and the requests alone. -/
theorem readHalf_beginLine_of_ne {other : IoOffset}
    (notLine : other.even ≠ IoOffset.vcount.even)
    (notStatus : other.even ≠ IoOffset.dispstat.even)
    (notRequests : other.even ≠ IoOffset.interruptFlags.even) :
    (io.beginLine line).readHalf other = io.readHalf other := by
  unfold beginLine
  dsimp only
  rw [readHalf_storeHalf_of_ne _ notStatus, readHalf_requestIf_of_ne _ _ _ notRequests,
    readHalf_requestIf_of_ne _ _ _ notRequests, readHalf_storeHalf_of_ne _ notLine]

/-- The line counter shows the line that starts. -/
theorem vcount_beginLine :
    (io.beginLine line).readHalf .vcount = BitVec.ofNat 16 line := by
  unfold beginLine
  dsimp only
  rw [readHalf_storeHalf_of_ne _ (by decide), readHalf_requestIf_of_ne _ _ _ (by decide),
    readHalf_requestIf_of_ne _ _ _ (by decide), readHalf_storeHalf_self]

/-- The display status becomes that of the line, with the settings of the program kept. -/
theorem videoStatus_beginLine :
    (io.beginLine line).videoStatus = VideoStatus.atLine io.videoStatus line :=
  readHalf_storeHalf_self _ _ _

end IoRegisters

namespace Clock

/-- The clock is at a cycle of a line of the frame, and the line counter and the blanks in the
status register show it. -/
structure ShownBy (clock : Clock) (io : IoRegisters) : Prop where
  inLine : clock.cycle < cyclesPerLine
  inFrame : clock.line < linesPerFrame
  line : (io.readHalf .vcount).toNat = clock.line
  vBlank : io.videoStatus.getLsbD 0 = true ↔ vBlankLine ≤ clock.line ∧ clock.line < vBlankEndLine
  hBlank : io.videoStatus.getLsbD 1 = true ↔ hBlankCycle ≤ clock.cycle

/-- The horizontal blank can be told from the cycle as well as from the dot, since it starts with a
dot. -/
theorem hBlankCycle_le_iff (clock : Clock) :
    hBlankCycle ≤ clock.cycle ↔ hBlankDot ≤ clock.dot := by
  unfold hBlankCycle dot
  rw [Nat.le_div_iff_mul_le (by decide)]

/-- After the last line of a frame comes the first one again. -/
theorem nextLine_lt {clock : Clock} (inFrame : clock.line < linesPerFrame) :
    clock.nextLine < linesPerFrame := by
  unfold nextLine
  split
  · decide
  · omega

/-- The vertical blank begins and ends where the counted line enters and leaves it, so that a bit
that is set and cleared on these two lines is right on all of them. -/
theorem inVBlank_nextLine {clock : Clock} (inFrame : clock.line < linesPerFrame) :
    (vBlankLine ≤ clock.nextLine ∧ clock.nextLine < vBlankEndLine) ↔
      clock.nextLine = vBlankLine ∨
        (clock.nextLine ≠ vBlankEndLine ∧
          vBlankLine ≤ clock.line ∧ clock.line < vBlankEndLine) := by
  unfold nextLine vBlankLine vBlankEndLine linesPerFrame at *
  split <;> omega

namespace ShownBy

variable {clock : Clock} {io after : IoRegisters}

/-- What the registers show of a clock is the line and two bits of the status, and does not depend
on the rest of them. -/
theorem of_same (shown : clock.ShownBy io) (line : after.readHalf .vcount = io.readHalf .vcount)
    (vBlank : after.videoStatus.getLsbD 0 = io.videoStatus.getLsbD 0)
    (hBlank : after.videoStatus.getLsbD 1 = io.videoStatus.getLsbD 1) : clock.ShownBy after where
  inLine := shown.inLine
  inFrame := shown.inFrame
  line := by rw [line, shown.line]
  vBlank := by rw [vBlank, shown.vBlank]
  hBlank := by rw [hBlank, shown.hBlank]

/-- What shows a clock is hardware state, so a program cannot change it. -/
theorem of_sameHardwareState (shown : clock.ShownBy io) (same : io.SameHardwareState after) :
    clock.ShownBy after :=
  shown.of_same same.line (same.status 0 (by decide)) (same.status 1 (by decide))

/-- As the clock reaches the horizontal blank, the registers show that it has. The line is the same,
and the vertical blank too. -/
theorem beginHBlank (shown : clock.ShownBy io) :
    ShownBy { clock with cycle := hBlankCycle } io.beginHBlank where
  inLine := by
    show hBlankCycle < cyclesPerLine
    decide
  inFrame := shown.inFrame
  line := by
    rw [io.readHalf_beginHBlank_of_ne (by decide) (by decide), shown.line]
  vBlank := by
    have kept : VideoStatus.hBlank.getLsbD 0 = false := by decide
    rw [io.videoStatus_beginHBlank, VideoStatus.getLsbD_assign _ _ _ (by decide), kept,
      if_neg Bool.false_ne_true, shown.vBlank]
  hBlank := by
    have raised : VideoStatus.hBlank.getLsbD 1 = true := by decide
    rw [io.videoStatus_beginHBlank, VideoStatus.getLsbD_assign _ _ _ (by decide), raised,
      if_pos rfl]
    exact iff_of_true rfl (Nat.le_refl _)

/-- As the clock starts a line, the registers show the new line and no horizontal blank, and the
vertical blank on the lines that belong to it. -/
theorem beginLine (shown : clock.ShownBy io) :
    ShownBy clock.startLine (io.beginLine clock.nextLine) where
  inLine := by
    show 0 < cyclesPerLine
    decide
  inFrame := nextLine_lt shown.inFrame
  line := by
    have small : clock.nextLine < 2 ^ 16 :=
      Nat.lt_trans (nextLine_lt shown.inFrame) (by decide)
    rw [io.vcount_beginLine, BitVec.toNat_ofNat, Nat.mod_eq_of_lt small]
    rfl
  vBlank := by
    show _ ↔ vBlankLine ≤ clock.nextLine ∧ clock.nextLine < vBlankEndLine
    rw [io.videoStatus_beginLine, VideoStatus.vBlank_atLine, inVBlank_nextLine shown.inFrame]
    split
    · rename_i begins
      exact iff_of_true rfl (.inl begins)
    · rename_i notBegin
      split
      · rename_i ends
        exact iff_of_false Bool.false_ne_true (fun inside => inside.elim notBegin (·.1 ends))
      · rename_i notEnd
        rw [shown.vBlank]
        simp only [notBegin, notEnd, ne_eq, not_false_eq_true, true_and, false_or]
  hBlank := by
    rw [io.videoStatus_beginLine, VideoStatus.hBlank_atLine]
    exact iff_of_false Bool.false_ne_true (show ¬ hBlankCycle ≤ 0 by decide)

end ShownBy

end Clock

/-- A move up to the boundary ahead keeps the clock and its registers together, whether it reaches
the boundary or not. -/
theorem Clock.ShownBy.moveOn {scan : Scan} {cycles : Nat} (moves : 0 < cycles)
    (within : scan.clock.cycle + cycles ≤ scan.clock.boundary)
    (shown : scan.clock.ShownBy scan.io) :
    (scan.moveOn cycles).clock.ShownBy (scan.moveOn cycles).io := by
  unfold Scan.moveOn
  dsimp only
  split
  · rename_i reached
    rw [reached]
    exact shown.beginHBlank
  · rename_i notHBlank
    split
    · exact shown.beginLine
    · rename_i notEnd
      -- Between boundaries the clock stays on its side of the horizontal blank.
      have sides : scan.clock.cycle + cycles < cyclesPerLine ∧
          (hBlankCycle ≤ scan.clock.cycle + cycles ↔ hBlankCycle ≤ scan.clock.cycle) := by
        have inLine := shown.inLine
        have ordered : hBlankCycle < cyclesPerLine := by decide
        unfold boundary at within
        split at within <;> omega
      exact ⟨sides.1, shown.inFrame, shown.line, shown.vBlank, shown.hBlank.trans sides.2.symm⟩

/-- Any number of cycles keeps the clock and its registers together. -/
theorem Clock.ShownBy.advance {clock : Clock} {io : IoRegisters} (shown : clock.ShownBy io)
    (cycles : Nat) : (clock.advance io cycles).clock.ShownBy (clock.advance io cycles).io :=
  Scan.run_invariant (fun scan => scan.clock.ShownBy scan.io)
    (fun _ _ moves within shown => shown.moveOn moves within) ⟨clock, io, false⟩ cycles shown

/-- Over any number of cycles the clock changes no register but the line counter, the display status
and the requests. -/
theorem Clock.readHalf_advance_of_ne (clock : Clock) (io : IoRegisters) (cycles : Nat)
    {other : IoOffset} (notLine : other.even ≠ IoOffset.vcount.even)
    (notStatus : other.even ≠ IoOffset.dispstat.even)
    (notRequests : other.even ≠ IoOffset.interruptFlags.even) :
    (clock.advance io cycles).io.readHalf other = io.readHalf other := by
  refine Scan.run_invariant (fun scan => scan.io.readHalf other = io.readHalf other) ?_
    ⟨clock, io, false⟩ cycles rfl
  intro scan count _ _ same
  unfold Scan.moveOn
  dsimp only
  split
  · rw [scan.io.readHalf_beginHBlank_of_ne notStatus notRequests, same]
  · split
    · rw [scan.io.readHalf_beginLine_of_ne _ notLine notStatus notRequests, same]
    · exact same

/-! ## Requests -/

namespace IoRegisters.KnownRequests

variable {io : IoRegisters}

/-- A horizontal blank requests an interrupt that the machine has. -/
theorem beginHBlank (known : io.KnownRequests) : io.beginHBlank.KnownRequests :=
  (known.storeHalf_of_ne (by decide) _).requestIf _ _

/-- So does the start of a line, be it by the vertical blank or by the counter match. -/
theorem beginLine (known : io.KnownRequests) (line : Nat) : (io.beginLine line).KnownRequests :=
  (((known.storeHalf_of_ne (by decide) _).requestIf _ _).requestIf _ _).storeHalf_of_ne
    (by decide) _

/-- The clock requests known interrupts only, as each of its events does: those of the two blanks
and of the counter match. -/
theorem advance (known : io.KnownRequests) (clock : Clock) (cycles : Nat) :
    (clock.advance io cycles).io.KnownRequests := by
  refine Scan.run_invariant (fun scan => scan.io.KnownRequests) ?_ ⟨clock, io, false⟩ cycles known
  intro scan count _ _ known
  unfold Scan.moveOn
  dsimp only
  split
  · exact known.beginHBlank
  · split
    · exact known.beginLine _
    · exact known

end IoRegisters.KnownRequests

end Handheld
