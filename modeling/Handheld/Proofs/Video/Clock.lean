import Handheld.Video.Clock

/-!
# What the video clock leaves alone

The clock moves from boundary to boundary, so what survives one move survives any number of cycles
(`Scan.run_invariant`).
-/

namespace Handheld

/-- What every move up to the boundary ahead preserves is preserved by a run of the clock. All that
is said of runs over time comes from this induction. -/
theorem Scan.run_invariant (property : Scan → Prop)
    (preserved : ∀ scan cycles, 0 < cycles → scan.clock.cycle + cycles ≤ scan.clock.boundary →
      property scan → property (scan.moveOn cycles))
    (scan : Scan) (cycles : Nat) (holds : property scan) : property (scan.run cycles) := by
  induction cycles using Nat.strongRecOn generalizing scan with
  | ind cycles ih =>
      unfold Scan.run
      dsimp only
      split
      · exact holds
      · apply ih
        · omega
        · refine preserved _ _ ?_ ?_ holds
          · omega
          · omega

namespace IoRegisters

@[simp] theorem haltRequested_storeHalf (io : IoRegisters) (offset : IoOffset) (value : Half) :
    (io.storeHalf offset value).haltRequested = io.haltRequested := rfl

@[simp] theorem haltRequested_requestIf (io : IoRegisters) (condition : Bool)
    (source : Interrupt) : (io.requestIf condition source).haltRequested = io.haltRequested := by
  unfold requestIf
  split <;> rfl

end IoRegisters

/-- The clock neither asks for low power nor forgets that it was asked for, so a request waits for
the tick to see it. -/
theorem Clock.haltRequested_advance (clock : Clock) (io : IoRegisters) (cycles : Nat) :
    (clock.advance io cycles).io.haltRequested = io.haltRequested := by
  refine Scan.run_invariant (fun scan => scan.io.haltRequested = io.haltRequested) ?_
    ⟨clock, io, false⟩ cycles rfl
  intro scan count _ _ same
  unfold Scan.moveOn
  dsimp only
  split
  · simp only [IoRegisters.beginHBlank, IoRegisters.haltRequested_requestIf,
      IoRegisters.haltRequested_storeHalf, same]
  · split
    · simp only [IoRegisters.beginLine, IoRegisters.haltRequested_requestIf,
        IoRegisters.haltRequested_storeHalf, same]
    · exact same

end Handheld
