import Handheld.Proofs.Console.HardwareState
import Handheld.Proofs.Console.Tick
import Handheld.Proofs.Memory.Acknowledge

/-!
# Requests are not lost

The keys and the clock only add requests (`IoRegisters.KeepsRequests.setKey`,
`IoRegisters.KeepsRequests.advance`). A tick lets the program have its turn before the clock, and of
what a program does only its stores reach the requests (`Console.getLsbD_interruptFlags_execute`).
So a request that is there before an operation and not after it was acknowledged by a tick that
retired a store (`Console.acknowledges_of_lost`, `Console.lost_only_by_acknowledgement`).
-/

namespace Handheld

/-! ## Keys and clock -/

/-- What is requested before is requested after. -/
def IoRegisters.KeepsRequests (before after : IoRegisters) : Prop :=
  ∀ i, before.interruptFlags.getLsbD i = true → after.interruptFlags.getLsbD i = true

namespace IoRegisters.KeepsRequests

variable {a b c : IoRegisters}

theorem of_eq (same : b.interruptFlags = a.interruptFlags) : KeepsRequests a b := by
  intro i raised
  rw [same, raised]

theorem refl (io : IoRegisters) : KeepsRequests io io := of_eq rfl

theorem trans (first : KeepsRequests a b) (second : KeepsRequests b c) : KeepsRequests a c :=
  fun i raised => second i (first i raised)

/-- A store of the hardware to any other register keeps the requests, since they have a register of
their own. -/
theorem storeHalf (io : IoRegisters) {offset : IoOffset}
    (apart : IoOffset.interruptFlags.even ≠ offset.even) (value : Half) :
    KeepsRequests io (io.storeHalf offset value) :=
  of_eq (io.readHalf_storeHalf_of_ne apart value)

/-- A further request keeps those that are there. -/
theorem requestIf (io : IoRegisters) (condition : Bool) (source : Interrupt) :
    KeepsRequests io (io.requestIf condition source) := by
  intro i raised
  rw [getLsbD_interruptFlags_requestIf, raised, Bool.true_or]

/-- A key event adds at most the request of the keys. -/
theorem setKey (io : IoRegisters) (key : Key) (pressed : Bool) :
    KeepsRequests io (io.setKey key pressed) :=
  (storeHalf io (by decide) _).trans (requestIf _ _ _)

/-- The start of a horizontal blank adds at most its own request. -/
theorem beginHBlank (io : IoRegisters) : KeepsRequests io io.beginHBlank :=
  (storeHalf io (by decide) _).trans (requestIf _ _ _)

/-- The start of a line adds at most the requests of the vertical blank and the counter match. -/
theorem beginLine (io : IoRegisters) (line : Nat) : KeepsRequests io (io.beginLine line) :=
  (((storeHalf io (by decide) _).trans (requestIf _ _ _)).trans (requestIf _ _ _)).trans
    (storeHalf _ (by decide) _)

/-- The clock clears no request, over any number of cycles: each of its events adds requests or
none. -/
theorem advance (clock : Clock) (io : IoRegisters) (cycles : Nat) :
    KeepsRequests io (clock.advance io cycles).io := by
  refine Scan.run_invariant (fun scan => KeepsRequests io scan.io) ?_ ⟨clock, io, false⟩ cycles
    (refl io)
  intro scan count _ _ kept
  unfold Scan.moveOn
  dsimp only
  split
  · exact kept.trans (beginHBlank _)
  · split
    · exact kept.trans (beginLine _ _)
    · exact kept

end IoRegisters.KeepsRequests

namespace Console

/-! ## Ticks -/

/-- The turn of the program clears the requests that its stores acknowledge. An interrupt stores
nothing. -/
theorem getLsbD_interruptFlags_execute (machine : Machine) {i : Nat} (inHalf : i < 16) :
    (execute machine).2.bus.io.interruptFlags.getLsbD i =
      (machine.bus.io.interruptFlags.getLsbD i &&
        !(!takesInterrupt machine && machine.stores.any (·.acknowledges i))) := by
  unfold execute
  split
  · rename_i taken
    rw [taken, Bool.not_true, Bool.false_and, Bool.not_false, Bool.and_true]
    rfl
  · rename_i untaken
    rw [Bool.eq_false_iff.mpr untaken, Bool.not_false, Bool.true_and]
    show machine.step.2.bus.io.interruptFlags.getLsbD i = _
    rw [machine.bus_step, Bus.getLsbD_interruptFlags_perform _ inHalf]

/-- The next tick retires an instruction that stores a one over a request. -/
structure Acknowledges (console : Console) (i : Nat) : Prop where
  retired : ∃ category ∈ [InstructionClass.store, .storeMultiple, .swap],
    console.machine.step.1 = .retired console.regs.pc category category.cycles ∧
      console.step.1 = .retired console.regs.pc category.cycles
  stored : ∃ store ∈ console.machine.stores, ∃ byte,
    (requestAddress i, byte) ∈ store.bytes ∧ byte.getLsbD (i % 8) = true

/-- Three classes of instructions write to memory. -/
theorem mem_of_stores {category : InstructionClass} (stores : category.stores = true) :
    category ∈ [InstructionClass.store, .storeMultiple, .swap] := by
  cases category <;> first | decide | cases stores

/-- A store that acknowledges a request is that of a retired instruction, since an instruction that
is skipped or traps stores nothing. -/
theorem acknowledges_of_stores {console : Console} {i : Nat}
    (ran : console.step = console.stepRunning) (untaken : takesInterrupt console.machine = false)
    (hit : console.machine.stores.any (·.acknowledges i) = true) : console.Acknowledges i := by
  obtain ⟨store, member, written⟩ := List.any_eq_true.mp hit
  obtain ⟨category, stores, outcome⟩ :=
    Machine.retired_of_stores (List.ne_nil_of_mem member)
  refine ⟨⟨category, mem_of_stores stores, outcome, ?_⟩,
    ⟨store, member, (store.acknowledges_iff i).mp written⟩⟩
  have executed : (execute console.machine).1 = .ofExecute console.machine.step.1 := by
    rw [execute, untaken, if_neg Bool.false_ne_true]
  rw [ran]
  show (execute console.machine).1 = _
  rw [executed, outcome]
  rfl

/-- A tick loses no request but by acknowledging it. Of what is done in a tick only the stores of
its instruction clear requests. -/
theorem acknowledges_of_lost {console : Console} {i : Nat}
    (raised : console.io.interruptFlags.getLsbD i = true)
    (lost : console.tick.io.interruptFlags.getLsbD i = false) : console.Acknowledges i := by
  have inHalf : i < 16 := BitVec.lt_of_getLsbD raised
  have gone : ¬ console.tick.io.interruptFlags.getLsbD i = true := Bool.eq_false_iff.mp lost
  rcases console.step_cases with ⟨_, held⟩ | ⟨_, waited⟩ | ⟨_, ran⟩
  · rw [tick, held] at gone
    exact absurd raised gone
  · refine absurd ?_ gone
    rw [tick, waited]
    exact IoRegisters.KeepsRequests.advance console.clock console.io haltedCycles i raised
  · -- What the clock finds is what the program has left, and it keeps all of it.
    have cleared : (execute console.machine).2.bus.io.interruptFlags.getLsbD i = false := by
      rw [← Bool.not_eq_true]
      intro left
      apply gone
      rw [tick, ran]
      exact IoRegisters.KeepsRequests.advance console.clock
        (execute console.machine).2.bus.io.clearHaltRequest
        (execute console.machine).1.cycles i left
    have before : console.machine.bus.io.interruptFlags.getLsbD i = true := raised
    rw [getLsbD_interruptFlags_execute _ inHalf, before, Bool.true_and, Bool.not_eq_false',
      Bool.and_eq_true, Bool.not_eq_true'] at cleared
    exact acknowledges_of_stores ran cleared.1 cleared.2

/-! ## Operations -/

/-- A request that is lost over several ticks was acknowledged in one of them. By induction on the
ticks: either the first one lost it, or a later one did. -/
theorem lost_in_tickMultiple {console : Console} {count i : Nat}
    (raised : console.io.interruptFlags.getLsbD i = true)
    (lost : (console.tickMultiple count).io.interruptFlags.getLsbD i = false) :
    ∃ earlier < count, (tick^[earlier] console).Acknowledges i := by
  induction count generalizing console with
  | zero => exact absurd raised (Bool.eq_false_iff.mp lost)
  | succ count ih =>
      rw [tickMultiple_succ] at lost
      cases kept : console.tick.io.interruptFlags.getLsbD i with
      | false => exact ⟨0, Nat.succ_pos _, acknowledges_of_lost raised kept⟩
      | true =>
          obtain ⟨earlier, within, acknowledged⟩ := ih kept lost
          exact ⟨earlier + 1, Nat.succ_lt_succ within, acknowledged⟩

/-- Loading an image keeps the requests. -/
theorem keepsRequests_loadRom (console : Console) (image : Array Byte) :
    console.io.KeepsRequests (console.loadRom image).io := .of_eq rfl

/-- An operation other than a reset that loses a request is a tick or a number of ticks, and one of
these acknowledges it. -/
theorem acknowledges_of_lost_by {operation : Operation} (notReset : operation.isReset = false)
    {console : Console} {i : Nat} (raised : console.io.interruptFlags.getLsbD i = true)
    (lost : (operation.apply console).io.interruptFlags.getLsbD i = false) :
    (operation = .step ∨ operation = .tick) ∧ console.Acknowledges i ∨
      ∃ count, operation = .tickMultiple count ∧
        ∃ earlier < count, (tick^[earlier] console).Acknowledges i := by
  have keeps (kept : (operation.apply console).io.interruptFlags.getLsbD i = true) : False :=
    Bool.eq_false_iff.mp lost kept
  cases operation with
  | step => exact .inl ⟨.inl rfl, acknowledges_of_lost raised lost⟩
  | tick => exact .inl ⟨.inr rfl, acknowledges_of_lost raised lost⟩
  | tickMultiple count => exact .inr ⟨count, rfl, lost_in_tickMultiple raised lost⟩
  | setKey key pressed =>
      exact absurd (IoRegisters.KeepsRequests.setKey console.io key pressed i raised) keeps
  | reset => cases notReset
  | loadRom image => exact absurd (console.keepsRequests_loadRom image i raised) keeps
  | loadTestRom => exact absurd (console.keepsRequests_loadRom _ i raised) keeps
  | skipBios | addBreakpoint | removeBreakpoint | enableDebugger | setStopped =>
      exact absurd raised keeps

/-- No request is lost: from every state that can be reached, the only operations without a reset
after which a request is gone are ticks that retired a store of a one over it. Keys, stops, halts,
interrupts, traps, skipped instructions and the clock keep every request, and the program clears
exactly those that its stores acknowledge, which are all that it does to the bus. -/
theorem lost_only_by_acknowledgement (config : ConsoleConfig) (operations : List Operation) :
    let console := (powerOn config).run operations
    (∀ (operation : Operation) (i : Nat), operation.isReset = false →
        console.io.interruptFlags.getLsbD i = true →
        (operation.apply console).io.interruptFlags.getLsbD i = false →
        (operation = .step ∨ operation = .tick) ∧ console.Acknowledges i ∨
          ∃ count, operation = .tickMultiple count ∧
            ∃ earlier < count, (tick^[earlier] console).Acknowledges i) ∧
      ((∀ pc cycles, console.step.1 ≠ .retired pc cycles) →
        console.io.KeepsRequests console.tick.io) ∧
      (∀ (clock : Clock) (io : IoRegisters) (cycles : Nat),
        io.KeepsRequests (clock.advance io cycles).io) ∧
      console.machine.step.2.bus = console.machine.bus.perform console.machine.stores ∧
      ∀ i < 16, (execute console.machine).2.bus.io.interruptFlags.getLsbD i =
        (console.io.interruptFlags.getLsbD i &&
          !(!takesInterrupt console.machine &&
            console.machine.stores.any (·.acknowledges i))) := by
  intro console
  refine ⟨fun operation i notReset => acknowledges_of_lost_by notReset, ?_,
    fun clock io => .advance clock io, console.machine.bus_step,
    fun i => getLsbD_interruptFlags_execute console.machine⟩
  intro notRetired i raised
  cases kept : console.tick.io.interruptFlags.getLsbD i with
  | true => rfl
  | false =>
      obtain ⟨category, _, _, retired⟩ := (acknowledges_of_lost raised kept).retired
      exact absurd retired (notRetired _ _)

end Console

end Handheld
