import Handheld.Proofs.Video.Position

/-!
# Video events

At a boundary of the clock a horizontal blank or a line begins (`VideoEvent`). Which events lie
within a number of cycles is a matter of arithmetic (`Clock.startedLines`, `Clock.startedHBlanks`),
and the clock goes through exactly these (`Scan.exists_events`). What events do to the registers
does not depend on when they come: the settings in the status register stay
(`VideoStatus.Settings`), each event adds the requests that the settings enable
(`VideoEvent.interruptFlags_foldl`), and the last line decides whether the selected line is reported
(`VideoEvent.lineMatch_foldl`). `Clock.events_due` puts both together.
-/

namespace Handheld

/-- What happens at a boundary of the clock. -/
inductive VideoEvent where
  /-- A horizontal blank begins. -/
  | hBlank
  /-- A line begins. -/
  | line (number : Nat)
  deriving DecidableEq

namespace VideoEvent

/-- The line that begins, if one does. -/
def line? : VideoEvent → Option Nat
  | hBlank => none
  | line number => some number

/-- The lines that begin. -/
def lines (events : List VideoEvent) : List Nat := events.filterMap line?

/-- What an event does to the registers. -/
def apply (io : IoRegisters) : VideoEvent → IoRegisters
  | hBlank => io.beginHBlank
  | line number => io.beginLine number

@[simp] theorem lines_nil : lines [] = [] := rfl

@[simp] theorem lines_hBlank (rest : List VideoEvent) : lines (hBlank :: rest) = lines rest := rfl

/-- The lines among events come in the order in which they begin. -/
@[simp] theorem lines_line (number : Nat) (rest : List VideoEvent) :
    lines (line number :: rest) = number :: lines rest := rfl

end VideoEvent

/-! ## Which events there are -/

namespace Clock

/-- The lines that begin within a number of cycles, one every 1232 cycles. -/
def startedLines (clock : Clock) (cycles : Nat) : List Nat :=
  (List.range ((clock.cycle + cycles) / 1232)).map fun i => (clock.line + 1 + i) % 228

/-- How many horizontal blanks begin within a number of cycles, one 960 cycles after each begin of a
line. -/
def startedHBlanks (clock : Clock) (cycles : Nat) : Nat :=
  (List.range (clock.cycle + cycles + 1)).countP fun j =>
    clock.cycle < 1232 * j + 960 ∧ 1232 * j + 960 ≤ clock.cycle + cycles

/-- Some horizontal blank begins exactly if some line, counted from the current one, has its 960th
cycle in the time that passes. -/
theorem startedHBlanks_pos {clock : Clock} {cycles : Nat} :
    0 < clock.startedHBlanks cycles ↔
      ∃ j, clock.cycle < 1232 * j + 960 ∧ 1232 * j + 960 ≤ clock.cycle + cycles := by
  rw [startedHBlanks, List.countP_pos_iff]
  constructor
  · rintro ⟨j, _, begins⟩
    exact ⟨j, of_decide_eq_true begins⟩
  · rintro ⟨j, begins⟩
    exact ⟨j, List.mem_range.mpr (by omega), decide_eq_true begins⟩

/-- The events are those that lie within a number of cycles. -/
structure Undergoes (clock : Clock) (cycles : Nat) (events : List VideoEvent) : Prop where
  lines : VideoEvent.lines events = clock.startedLines cycles
  hBlank : .hBlank ∈ events ↔ 0 < clock.startedHBlanks cycles

variable {clock : Clock} {cycles : Nat} {events : List VideoEvent}

/-- A clock that does not reach the next boundary undergoes nothing: no line and no blank begins
within the cycles. -/
theorem undergoes_nothing (before : clock.cycle + cycles < clock.boundary) :
    clock.Undergoes cycles [] := by
  unfold boundary at before
  rw [hBlankCycle_eq, cyclesPerLine_eq] at before
  have sameLine : (clock.cycle + cycles) / 1232 = 0 := by
    split at before <;> omega
  refine ⟨?_, ?_⟩
  · rw [startedLines, sameLine]
    rfl
  · rw [startedHBlanks_pos]
    refine iff_of_false List.not_mem_nil ?_
    rintro ⟨j, later, soon⟩
    split at before <;> omega

/-- From the drawn part of a line the clock goes on to the blank. It begins once, and the rest
happens in the cycles that are left from there. -/
theorem undergoes_hBlank (drawn : clock.cycle < hBlankCycle)
    (reached : hBlankCycle ≤ clock.cycle + cycles)
    (rest : Undergoes { clock with cycle := hBlankCycle } (cycles - (hBlankCycle - clock.cycle))
      events) :
    clock.Undergoes cycles (.hBlank :: events) := by
  rw [hBlankCycle_eq] at drawn reached
  have position : hBlankCycle + (cycles - (hBlankCycle - clock.cycle)) = clock.cycle + cycles := by
    rw [hBlankCycle_eq]
    omega
  refine ⟨?_, ?_⟩
  · rw [VideoEvent.lines_hBlank, rest.lines, startedLines, startedLines, position]
  · rw [startedHBlanks_pos]
    exact iff_of_true List.mem_cons_self ⟨0, by omega, by omega⟩

/-- From the blank of a line the clock goes on to the next line, which is counted around within the
frame, and the rest happens from the start of it. -/
theorem undergoes_line (inLine : clock.cycle < cyclesPerLine)
    (inFrame : clock.line < linesPerFrame) (blank : hBlankCycle ≤ clock.cycle)
    (reached : cyclesPerLine ≤ clock.cycle + cycles)
    (rest : clock.startLine.Undergoes (cycles - (cyclesPerLine - clock.cycle)) events) :
    clock.Undergoes cycles (.line clock.nextLine :: events) := by
  rw [cyclesPerLine_eq] at inLine reached
  rw [linesPerFrame_eq] at inFrame
  rw [hBlankCycle_eq] at blank
  have cycle : clock.startLine.cycle = 0 := rfl
  have line : clock.startLine.line = clock.nextLine := rfl
  have next : clock.nextLine = (clock.line + 1) % 228 := by
    unfold nextLine
    rw [linesPerFrame_eq]
    split <;> omega
  refine ⟨?_, ?_⟩
  · have one : (clock.cycle + cycles) / 1232 =
        (0 + (cycles - (cyclesPerLine - clock.cycle))) / 1232 + 1 := by
      rw [cyclesPerLine_eq]
      omega
    rw [VideoEvent.lines_line, rest.lines, startedLines, startedLines, cycle, line, one,
      List.range_succ_eq_map, List.map_cons, List.map_map]
    refine congrArg₂ List.cons next (List.map_congr_left fun i _ => ?_)
    rw [next, Function.comp_apply]
    omega
  · have hBlank := rest.hBlank
    rw [startedHBlanks_pos, cycle, cyclesPerLine_eq] at hBlank
    rw [startedHBlanks_pos, List.mem_cons, or_iff_right nofun, hBlank]
    constructor
    · rintro ⟨j, later, soon⟩
      exact ⟨j + 1, by omega, by omega⟩
    · rintro ⟨j, later, soon⟩
      exact ⟨j - 1, by omega, by omega⟩

end Clock

/-- A run of the clock goes through events: they make the registers what they are, the last line
among them is the one being drawn, and the vertical blank is reported if its line is among them. -/
structure Scan.Through (events : List VideoEvent) (before after : Scan) : Prop where
  io : after.io = events.foldl VideoEvent.apply before.io
  line : after.clock.line = (VideoEvent.lines events).getLast?.getD before.clock.line
  reported : after.enteredVBlank = true ↔
    before.enteredVBlank = true ∨ Clock.vBlankLine ∈ VideoEvent.lines events

namespace Scan

variable {scan after : Scan} {events : List VideoEvent}

/-- What happens after a horizontal blank has begun happens after its start, the clock being in the
same line. -/
theorem Through.hBlank (clock : Clock) (sameLine : clock.line = scan.clock.line)
    (rest : Through events { scan with clock, io := scan.io.beginHBlank } after) :
    Through (.hBlank :: events) scan after :=
  ⟨rest.io, rest.line.trans (by rw [sameLine]; rfl), rest.reported⟩

/-- What happens after a line has begun happens after its start, with the event of this line in
front of the others. -/
theorem Through.startLine
    (rest : Through events
      { clock := scan.clock.startLine, io := scan.io.beginLine scan.clock.nextLine,
        enteredVBlank := scan.enteredVBlank || scan.clock.nextLine == Clock.vBlankLine } after) :
    Through (.line scan.clock.nextLine :: events) scan after := by
  refine ⟨rest.io, ?_, ?_⟩
  · rw [rest.line, VideoEvent.lines_line, List.getLast?_cons, Option.getD_some]
    rfl
  · rw [rest.reported, VideoEvent.lines_line, List.mem_cons, Bool.or_eq_true, beq_iff_eq, or_assoc,
      @eq_comm _ Clock.vBlankLine]

/-- The clock goes through the events that lie within the cycles it is advanced by. By induction on
the boundaries, as in the run itself. -/
theorem exists_events (scan : Scan) (inLine : scan.clock.cycle < Clock.cyclesPerLine)
    (inFrame : scan.clock.line < Clock.linesPerFrame) (cycles : Nat) :
    ∃ events, scan.clock.Undergoes cycles events ∧ Through events scan (scan.run cycles) := by
  induction cycles using Nat.strongRecOn generalizing scan with
  | ind cycles ih =>
      have ahead := Clock.cycle_lt_boundary inLine
      by_cases before : scan.clock.cycle + cycles < scan.clock.boundary
      · refine ⟨[], Clock.undergoes_nothing before, ?_⟩
        rw [run_of_lt_boundary before]
        exact ⟨rfl, rfl, by rw [VideoEvent.lines_nil, or_iff_left List.not_mem_nil]⟩
      · have reached := Nat.le_of_not_lt before
        have fewer : cycles - (scan.clock.boundary - scan.clock.cycle) < cycles := by omega
        rw [run_of_boundary_le ahead reached]
        by_cases drawn : scan.clock.cycle < Clock.hBlankCycle
        · have boundary : scan.clock.boundary = Clock.hBlankCycle := if_pos drawn
          rw [moveOn_hBlank drawn]
          rw [boundary] at fewer reached ⊢
          obtain ⟨events, undergoes, through⟩ := ih _ fewer
            { scan with
              clock := { scan.clock with cycle := Clock.hBlankCycle }, io := scan.io.beginHBlank }
            (show Clock.hBlankCycle < Clock.cyclesPerLine by decide) inFrame
          exact ⟨_, Clock.undergoes_hBlank drawn reached undergoes,
            .hBlank { scan.clock with cycle := Clock.hBlankCycle } rfl through⟩
        · have boundary : scan.clock.boundary = Clock.cyclesPerLine := if_neg drawn
          have blank := Nat.le_of_not_lt drawn
          rw [moveOn_line blank inLine]
          rw [boundary] at fewer reached ⊢
          obtain ⟨events, undergoes, through⟩ := ih _ fewer
            ⟨scan.clock.startLine, scan.io.beginLine scan.clock.nextLine,
              scan.enteredVBlank || scan.clock.nextLine == Clock.vBlankLine⟩
            (show 0 < Clock.cyclesPerLine by decide) (Clock.nextLine_lt inFrame)
          exact ⟨_, Clock.undergoes_line inLine inFrame blank reached undergoes,
            through.startLine⟩

end Scan

/-! ## What events do -/

/-- The bit of a source, if it requests an interrupt. -/
def Interrupt.maskIf (source : Interrupt) (condition : Prop) [Decidable condition] : Half :=
  if condition then source.mask else 0

/-- A request for one of two reasons is that for the one together with that for the other. -/
theorem Interrupt.maskIf_or (source : Interrupt) (p q : Prop) [Decidable p] [Decidable q] :
    source.maskIf (p ∨ q) = source.maskIf p ||| source.maskIf q := by
  unfold maskIf
  by_cases first : p <;> by_cases second : q <;> simp [first, second]

/-- A conditional request adds its bit under its condition, so that the requests of several events
can be collected in one sum. -/
theorem IoRegisters.interruptFlags_requestIf (io : IoRegisters) (condition : Bool)
    (source : Interrupt) :
    (io.requestIf condition source).interruptFlags =
      io.interruptFlags ||| source.maskIf (condition = true) := by
  cases condition with
  | false => exact BitVec.or_zero.symm
  | true => exact io.interruptFlags_requestInterrupt source

namespace VideoStatus

/-- The bits that the program sets agree: what is enabled and which line is selected. -/
def Settings (a b : Half) : Prop := ∀ i, 3 ≤ i → b.getLsbD i = a.getLsbD i

namespace Settings

variable {a b : Half}

/-- The settings are kept if each bit from the fourth on is. -/
theorem of_inHalf (same : ∀ i < 16, 3 ≤ i → b.getLsbD i = a.getLsbD i) : Settings a b := by
  intro i setting
  by_cases inHalf : i < 16
  · exact same i inHalf setting
  · have outside := Nat.le_of_not_lt inHalf
    rw [BitVec.getLsbD_of_ge _ _ outside, BitVec.getLsbD_of_ge _ _ outside]

/-- Keeping the settings keeps whether the vertical blank requests an interrupt. -/
theorem vBlankEnabled (same : Settings a b) :
    VideoStatus.vBlankEnabled b = VideoStatus.vBlankEnabled a := same 3 (by decide)

/-- Keeping the settings keeps whether horizontal blanks request interrupts. -/
theorem hBlankEnabled (same : Settings a b) :
    VideoStatus.hBlankEnabled b = VideoStatus.hBlankEnabled a := same 4 (by decide)

/-- Keeping the settings keeps whether the selected line requests an interrupt. -/
theorem lineMatchEnabled (same : Settings a b) :
    VideoStatus.lineMatchEnabled b = VideoStatus.lineMatchEnabled a := same 5 (by decide)

/-- Keeping the settings keeps the selected line. -/
theorem selectedLine (same : Settings a b) :
    VideoStatus.selectedLine b = VideoStatus.selectedLine a := by
  refine congrArg BitVec.toNat (BitVec.eq_of_getLsbD_eq fun i bound => ?_)
  rw [Half.high, Half.high, BitVec.getLsbD_extractLsb', BitVec.getLsbD_extractLsb',
    same (8 + i) (by omega)]

end Settings

theorem getLsbD_lineMatch (i : Nat) : lineMatch.getLsbD i = decide (i = 2) :=
  Half.getLsbD_twoPow (show 2 < 16 by decide) i

theorem getLsbD_hBlank (i : Nat) : hBlank.getLsbD i = decide (i = 1) :=
  Half.getLsbD_twoPow (show 1 < 16 by decide) i

theorem getLsbD_vBlank (i : Nat) : vBlank.getLsbD i = decide (i = 0) :=
  Half.getLsbD_twoPow (show 0 < 16 by decide) i

/-- The bit of the horizontal blank is not a setting. -/
theorem settings_hBlank (status : Half) (value : Bool) :
    Settings status (assign status hBlank value) := by
  refine .of_inHalf fun i inHalf setting => ?_
  have other : i ≠ 1 := by omega
  rw [getLsbD_assign _ _ _ inHalf, getLsbD_hBlank, decide_eq_false other,
    if_neg Bool.false_ne_true]

/-- At the start of a line the three lower bits change and no setting. -/
theorem settings_atLine (status : Half) (line : Nat) : Settings status (atLine status line) := by
  refine .of_inHalf fun i inHalf setting => ?_
  have others : i ≠ 0 ∧ i ≠ 1 ∧ i ≠ 2 := by omega
  rw [getLsbD_atLine _ _ inHalf (by rw [getLsbD_lineMatch, decide_eq_false others.2.2]),
    getLsbD_vBlank, getLsbD_hBlank, decide_eq_false others.1, decide_eq_false others.2.1]
  simp only [Bool.false_eq_true, false_and, ↓reduceIte]

/-- A line reports whether it is the selected one. -/
theorem lineMatch_atLine (status : Half) (line : Nat) :
    (atLine status line).getLsbD 2 = (line == selectedLine status) := by
  unfold atLine
  dsimp only
  rw [getLsbD_assign _ _ _ (by decide), getLsbD_lineMatch, decide_eq_true rfl, if_pos rfl]

end VideoStatus

namespace VideoEvent

variable (io : IoRegisters) (event : VideoEvent)

/-- No event of the clock changes a setting of the program: the enabled interrupts and the selected
line stay over any number of events. -/
theorem settings_apply : VideoStatus.Settings io.videoStatus (event.apply io).videoStatus := by
  cases event with
  | hBlank =>
      rw [apply, io.videoStatus_beginHBlank]
      exact VideoStatus.settings_hBlank _ _
  | line number =>
      rw [apply, io.videoStatus_beginLine]
      exact VideoStatus.settings_atLine _ _

/-- Events leave the settings alone. -/
theorem settings_foldl (events : List VideoEvent) :
    VideoStatus.Settings io.videoStatus (events.foldl apply io).videoStatus := by
  induction events generalizing io with
  | nil => exact fun _ _ => rfl
  | cons first rest ih =>
      exact fun i setting =>
        (ih (first.apply io) i setting).trans (settings_apply io first i setting)

/-- A horizontal blank requests its interrupt if that is enabled, and no other. It does so on every
line, also within the vertical blank. -/
theorem interruptFlags_beginHBlank :
    io.beginHBlank.interruptFlags = io.interruptFlags |||
      Interrupt.hBlank.maskIf (VideoStatus.hBlankEnabled io.videoStatus = true) := by
  have kept : (io.storeHalf .dispstat
      (VideoStatus.assign io.videoStatus VideoStatus.hBlank true)).interruptFlags =
        io.interruptFlags := io.readHalf_storeHalf_of_ne (by decide) _
  rw [IoRegisters.beginHBlank, IoRegisters.interruptFlags_requestIf, kept,
    (VideoStatus.settings_hBlank io.videoStatus true).hBlankEnabled]

/-- The start of a line requests the interrupt of the vertical blank at line 160 and that of the
selected line at that line, each if it is enabled. -/
theorem interruptFlags_beginLine (number : Nat) :
    (io.beginLine number).interruptFlags = io.interruptFlags |||
      Interrupt.vBlank.maskIf
        (number = 160 ∧ VideoStatus.vBlankEnabled io.videoStatus = true) |||
      Interrupt.vCount.maskIf
        (number = VideoStatus.selectedLine io.videoStatus ∧
          VideoStatus.lineMatchEnabled io.videoStatus = true) := by
  have counted : (io.storeHalf .vcount (BitVec.ofNat 16 number)).interruptFlags =
      io.interruptFlags := io.readHalf_storeHalf_of_ne (by decide) _
  unfold IoRegisters.beginLine
  dsimp only
  rw [IoRegisters.interruptFlags, IoRegisters.readHalf_storeHalf_of_ne _ (by decide),
    ← IoRegisters.interruptFlags, IoRegisters.interruptFlags_requestIf,
    IoRegisters.interruptFlags_requestIf, counted]
  simp only [Bool.and_eq_true, beq_iff_eq, Clock.vBlankLine_eq]

/-- Each event adds the requests that the settings enable. Over many events each request is there if
its event was among them, or if it was there before. -/
theorem interruptFlags_foldl (events : List VideoEvent) :
    (events.foldl apply io).interruptFlags = io.interruptFlags |||
      Interrupt.hBlank.maskIf
        (.hBlank ∈ events ∧ VideoStatus.hBlankEnabled io.videoStatus = true) |||
      Interrupt.vBlank.maskIf
        (160 ∈ lines events ∧ VideoStatus.vBlankEnabled io.videoStatus = true) |||
      Interrupt.vCount.maskIf
        (VideoStatus.selectedLine io.videoStatus ∈ lines events ∧
          VideoStatus.lineMatchEnabled io.videoStatus = true) := by
  induction events generalizing io with
  | nil =>
      simp only [List.foldl_nil, lines_nil, List.not_mem_nil, false_and, Interrupt.maskIf,
        ↓reduceIte]
      simp
  | cons first rest ih =>
      have settings := settings_apply io first
      rw [List.foldl_cons, ih, settings.hBlankEnabled, settings.vBlankEnabled,
        settings.lineMatchEnabled, settings.selectedLine]
      cases first with
      | hBlank =>
          rw [apply, interruptFlags_beginHBlank]
          simp only [lines_hBlank, List.mem_cons, or_and_right, true_and, Interrupt.maskIf_or]
          ac_rfl
      | line number =>
          rw [apply, interruptFlags_beginLine]
          simp only [lines_line, List.mem_cons, reduceCtorEq, false_or, or_and_right,
            Interrupt.maskIf_or, @eq_comm _ number]
          ac_rfl

/-- The last line decides whether the selected line is reported. Without a line among the events the
match is as before. -/
theorem lineMatch_foldl (events : List VideoEvent) :
    (events.foldl apply io).videoStatus.getLsbD 2 =
      ((lines events).getLast?.map (· == VideoStatus.selectedLine io.videoStatus)).getD
        (io.videoStatus.getLsbD 2) := by
  induction events generalizing io with
  | nil => rfl
  | cons first rest ih =>
      rw [List.foldl_cons, ih, (settings_apply io first).selectedLine]
      cases first with
      | hBlank =>
          rw [apply, io.videoStatus_beginHBlank, VideoStatus.getLsbD_assign _ _ _ (by decide),
            VideoStatus.getLsbD_hBlank]
          rfl
      | line number =>
          rw [apply, io.videoStatus_beginLine, VideoStatus.lineMatch_atLine, lines_line,
            List.getLast?_cons]
          cases (lines rest).getLast? <;> rfl

end VideoEvent

/-- The clock raises video events exactly when they are due. Of the lines and horizontal blanks that
begin within the cycles it is advanced by, however many they are, a blank requests its interrupt if
the status register enables it, line 160 requests that of the vertical blank, and the selected line
its own; the vertical blank is reported if its line begins, and the last line decides whether the
selected line is shown. The settings in the status register and all other registers stay as they
are. -/
theorem Clock.events_due {clock : Clock} (inLine : clock.cycle < 1232)
    (inFrame : clock.line < 228) (io : IoRegisters) (cycles : Nat) :
    let after := clock.advance io cycles
    let status := io.videoStatus
    let lines := clock.startedLines cycles
    (after.io.interruptFlags = io.interruptFlags |||
      Interrupt.hBlank.maskIf
        (0 < clock.startedHBlanks cycles ∧ VideoStatus.hBlankEnabled status = true) |||
      Interrupt.vBlank.maskIf (160 ∈ lines ∧ VideoStatus.vBlankEnabled status = true) |||
      Interrupt.vCount.maskIf
        (VideoStatus.selectedLine status ∈ lines ∧ VideoStatus.lineMatchEnabled status = true)) ∧
    (after.enteredVBlank = true ↔ 160 ∈ lines) ∧
    (after.clock.line = lines.getLast?.getD clock.line ∧
      after.io.videoStatus.getLsbD 2 =
        if lines = [] then status.getLsbD 2
        else after.clock.line == VideoStatus.selectedLine status) ∧
    (∀ i, 3 ≤ i → after.io.videoStatus.getLsbD i = status.getLsbD i) ∧
    ∀ offset : IoOffset, offset.even ≠ .dispstat → offset.even ≠ .vcount →
      offset.even ≠ .interruptFlags → after.io.readByte offset = io.readByte offset := by
  intro after status lines
  obtain ⟨events, undergoes, through⟩ :=
    Scan.exists_events ⟨clock, io, false⟩ inLine inFrame cycles
  -- The advance is a fold over the events of the scan, so each clause is a lemma about such folds.
  have begun : VideoEvent.lines events = lines := undergoes.lines
  have registers : after.io = events.foldl VideoEvent.apply io := through.io
  have line : after.clock.line = lines.getLast?.getD clock.line := begun ▸ through.line
  refine ⟨?_, ?_, ⟨line, ?_⟩, ?_, ?_⟩
  · rw [registers, VideoEvent.interruptFlags_foldl]
    simp only [begun, undergoes.hBlank]
    rfl
  · rw [← begun]
    exact through.reported.trans (or_iff_right Bool.false_ne_true)
  · rw [registers, VideoEvent.lineMatch_foldl, begun]
    by_cases none : lines = []
    · rw [if_pos none, none]
      rfl
    · rw [if_neg none, line, List.getLast?_eq_some_getLast none]
      rfl
  · rw [registers]
    exact VideoEvent.settings_foldl io events
  · intro offset notStatus notLine notRequests
    exact IoRegisters.readByte_of_readHalf
      (clock.readHalf_advance_of_ne io cycles notLine notStatus notRequests)

/-- A horizontal blank and the first line of the vertical blank, which is selected, with all three
interrupts enabled. -/
theorem Clock.events_due_at_vBlank :
    let clock : Clock := ⟨950, 159, 0⟩
    let io := IoRegisters.powerOn.storeHalf .dispstat 0xA038
    (clock.cycle < 1232 ∧ clock.line < 228) ∧
      (clock.advance io 282).io.interruptFlags = 0x7 ∧
      (clock.advance io 282).enteredVBlank = true ∧
      (clock.advance io 282).io.videoStatus.getLsbD 2 = true := by
  intro clock io
  have inLine : clock.cycle < 1232 := by decide
  have inFrame : clock.line < 228 := by decide
  obtain ⟨flags, reported, ⟨line, lineMatch⟩, _⟩ := events_due inLine inFrame io 282
  have lines : clock.startedLines 282 = [160] := by decide
  refine ⟨⟨inLine, inFrame⟩, ?_, ?_, ?_⟩
  · rw [flags]
    decide +kernel
  · rw [reported, lines]
    decide
  · rw [lineMatch, line, lines]
    decide +kernel

end Handheld
