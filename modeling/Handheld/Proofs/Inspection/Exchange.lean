import Mathlib.Data.List.Basic
import Handheld.Inspection.Session

/-!
# Inspector and session at the same time

The inspector goes on sending while the session is inside a call: between two commands that it
applies, and between two ticks that it runs. An `Exchange` is both sides at such a moment together
with what has happened so far, a `Turn` is what can happen next, and a schedule is a list of turns.
A call that nothing interrupts is `Inspection.process` or `Inspection.iterate`
(`Exchange.process_uninterrupted`, `Exchange.iterate_uninterrupted`).
-/

namespace Handheld

/-- What the session is doing. -/
inductive Activity where
  /-- It is between two calls. -/
  | idle
  /-- It applies the commands in the queue, at the beginning of an iteration or not, and has
  applied `count` of them. -/
  | processing (iterating : Bool) (count : Nat)
  /-- It runs the ticks of an iteration. -/
  | running (ticks : Nat)
  deriving DecidableEq, Repr

/-- What has happened. -/
inductive Event where
  | sent (command : Command)
  | applied (command : Command)
  /-- Processing the commands returned how many there were. -/
  | processed (count : Nat)
  | ticked
  /-- An iteration returned how many ticks it ran. -/
  | iterated (ticks : Nat)
  deriving DecidableEq

/-- A call that has returned, with the commands that it applied. -/
inductive Call where
  | process (commands : List Command)
  | iterate (commands : List Command) (ticks : Nat)

/-- What happens on the session's side of a call. -/
def Call.events : Call → List Event
  | process commands => commands.map .applied ++ [.processed commands.length]
  | iterate commands ticks =>
    commands.map .applied ++
      .processed commands.length :: (List.replicate ticks .ticked ++ [.iterated ticks])

/-- What can happen next. -/
inductive Turn where
  /-- The inspector sends a command. -/
  | send (command : Command)
  /-- The session is called to process the commands, if it is between two calls. -/
  | process
  /-- The session is called to iterate, if it is between two calls. -/
  | iterate
  /-- The session takes the next step of its call, if it is in one. -/
  | proceed
  deriving DecidableEq

/-- Both sides of an inspection while the session may be inside a call. -/
structure Exchange where
  /-- The queue and what else the two sides share. -/
  shared : Inspection
  session : Session
  activity : Activity
  /-- What has happened, the latest last. -/
  history : List Event

namespace Exchange

def start (console : Console) (config : SessionConfig) (screens : Array (Array Byte))
    (target? : Option Nat) : Exchange where
  shared := { Inspection.start console config with screens, target? }
  session := ⟨console, config, false⟩
  activity := .idle
  history := []

/-- What there is apart from calls: the inspection with its session. -/
def inspection (exchange : Exchange) : Inspection :=
  { exchange.shared with session? := some exchange.session }

def record (exchange : Exchange) (event : Event) : Exchange :=
  { exchange with history := exchange.history ++ [event] }

def send (exchange : Exchange) (command : Command) : Exchange :=
  { exchange.record (.sent command) with
    shared := { exchange.shared with queue := exchange.shared.queue ++ [command] } }

/-- The session is called, to iterate or to process the commands only. -/
def call (exchange : Exchange) (iterating : Bool) : Exchange :=
  match exchange.activity with
  | .idle => { exchange with activity := .processing iterating 0 }
  | _ => exchange

/-- The session applies the command that it has taken out of the queue. -/
def applyNext (exchange : Exchange) (iterating : Bool) (count : Nat) (command : Command)
    (rest : List Command) : Exchange where
  shared := ({ exchange.shared with queue := rest }).answer exchange.session command
  session := exchange.session.obey command
  activity := .processing iterating (count + 1)
  history := exchange.history ++ [.applied command]

/-- The session finds the queue empty. An iteration goes on with its ticks, unless paused. -/
def finishProcessing (exchange : Exchange) (iterating : Bool) (count : Nat) : Exchange :=
  let processed := exchange.record (.processed count)
  if !iterating then { processed with activity := .idle }
  else if exchange.session.paused then { processed.record (.iterated 0) with activity := .idle }
  else { processed with activity := .running 0 }

def tick (exchange : Exchange) (ticks : Nat) : Exchange :=
  { exchange.record .ticked with
    session := { exchange.session with console := exchange.session.console.tick }
    activity := .running (ticks + 1) }

/-- The session runs another tick of an iteration, or returns. -/
def runOn (exchange : Exchange) (ticks : Nat) : Exchange :=
  if ticks < exchange.session.config.ticksPerIteration ∧ ¬ exchange.session.console.isStopped then
    exchange.tick ticks
  else { exchange.record (.iterated ticks) with activity := .idle }

def proceed (exchange : Exchange) : Exchange :=
  match exchange.activity with
  | .idle => exchange
  | .processing iterating count =>
    match exchange.shared.queue with
    | command :: rest => exchange.applyNext iterating count command rest
    | [] => exchange.finishProcessing iterating count
  | .running ticks => exchange.runOn ticks

def turn (exchange : Exchange) : Turn → Exchange
  | .send command => exchange.send command
  | .process => exchange.call false
  | .iterate => exchange.call true
  | .proceed => exchange.proceed

def run (exchange : Exchange) (schedule : List Turn) : Exchange := schedule.foldl turn exchange

/-- A schedule can be run in parts. -/
theorem run_append (exchange : Exchange) (first second : List Turn) :
    exchange.run (first ++ second) = (exchange.run first).run second :=
  List.foldl_append

/-! ## Calls without interruption -/

/-- Sending is what it is between two calls. -/
theorem inspection_send (exchange : Exchange) (command : Command) :
    exchange.inspection.send command = .ok (exchange.send command).inspection := rfl

def proceeds (exchange : Exchange) (count : Nat) : Exchange :=
  exchange.run (List.replicate count .proceed)

theorem proceeds_succ (exchange : Exchange) (count : Nat) :
    exchange.proceeds (count + 1) = exchange.proceed.proceeds count := rfl

/-- So can the steps of a call. -/
theorem proceeds_add (exchange : Exchange) (first second : Nat) :
    exchange.proceeds (first + second) = (exchange.proceeds first).proceeds second := by
  rw [proceeds, List.replicate_add, run_append]
  rfl

/-- Answering a request leaves the queue to the inspector and the session. -/
theorem queue_answer (inspection : Inspection) (session : Session) (command : Command) :
    (inspection.answer session command).queue = inspection.queue := by
  obtain ⟨_, report?, screens, target?, session?⟩ := inspection
  cases command with
  | requestScreenDraw => cases target? <;> rfl
  | requestCpuDebugInfo | setKey | setPause | loadRom => rfl

/-- An inspection without its queue and its session. -/
def observed (inspection : Inspection) : Inspection :=
  { inspection with queue := [], session? := none }

/-- What a command leaves on the inspector's side depends neither on the queue nor on the session
that it is kept with. -/
theorem observed_answer (inspection : Inspection) (session : Session) (command : Command) :
    observed (inspection.answer session command) =
      (observed inspection).answer session command := by
  obtain ⟨_, report?, screens, target?, session?⟩ := inspection
  cases command with
  | requestScreenDraw => cases target? <;> rfl
  | requestCpuDebugInfo | setKey | setPause | loadRom => rfl

/-- As long as there are commands in the queue, the next step of the session applies the oldest one,
also one that was sent after the call began. -/
theorem proceed_of_pending {exchange : Exchange} {iterating : Bool} {count : Nat}
    (activity : exchange.activity = .processing iterating count) {command : Command}
    {rest : List Command} (pending : exchange.shared.queue = command :: rest) :
    exchange.proceed = exchange.applyNext iterating count command rest := by
  simp only [proceed, activity, pending]

/-- Once the queue is empty, the next step returns the number of commands, or begins the ticks of an
iteration. -/
theorem proceed_of_empty {exchange : Exchange} {iterating : Bool} {count : Nat}
    (activity : exchange.activity = .processing iterating count)
    (empty : exchange.shared.queue = []) :
    exchange.proceed = exchange.finishProcessing iterating count := by
  simp only [proceed, activity, empty]

/-- If nobody sends in between, as many steps as there are commands apply them all, in order, and
leave an empty queue. -/
theorem proceeds_queue {exchange : Exchange} {iterating : Bool} {count : Nat}
    (activity : exchange.activity = .processing iterating count) {queue : List Command}
    (pending : exchange.shared.queue = queue) :
    let reached := exchange.proceeds queue.length
    reached.inspection = (observed exchange.shared).applyAll exchange.session queue ∧
      reached.shared.queue = [] ∧
      reached.activity = .processing iterating (count + queue.length) ∧
      reached.history = exchange.history ++ queue.map .applied := by
  induction queue generalizing exchange count with
  | nil =>
      refine ⟨?_, pending, activity, (List.append_nil _).symm⟩
      show exchange.inspection = { observed exchange.shared with session? := some exchange.session }
      rw [inspection, observed, ← pending]
  | cons command rest ih =>
      have onward : exchange.proceeds (command :: rest).length =
          (exchange.applyNext iterating count command rest).proceeds rest.length := by
        rw [List.length_cons, proceeds_succ, proceed_of_pending activity pending]
      obtain ⟨inspection, empty, active, history⟩ :=
        @ih (exchange.applyNext iterating count command rest) _ rfl (queue_answer _ _ _)
      rw [onward]
      refine ⟨?_, empty, ?_, ?_⟩
      · rw [inspection, Inspection.applyAll, applyNext, observed_answer]
        rfl
      · rw [active, List.length_cons, Nat.add_assoc, Nat.add_comm 1]
      · rw [history, List.map_cons]
        exact List.append_assoc _ [_] _

/-- Processing the commands that wait, up to the return: as many steps as there are commands, and
one that returns their number. -/
theorem proceeds_processing {exchange : Exchange} (idle : exchange.activity = .idle)
    (iterating : Bool) :
    let queue := exchange.shared.queue
    let applied := (exchange.call iterating).proceeds queue.length
    (exchange.call iterating).proceeds (queue.length + 1) =
        applied.finishProcessing iterating queue.length ∧
      exchange.inspection.process = (queue.length, applied.inspection) ∧
      applied.history = exchange.history ++ queue.map .applied := by
  intro queue applied
  have called : exchange.call iterating =
      { exchange with activity := .processing iterating 0 } := by
    simp only [call, idle]
  have begins : (exchange.call iterating).activity = .processing iterating 0 := by rw [called]
  have pending : (exchange.call iterating).shared.queue = queue := by rw [called]
  obtain ⟨inspection, empty, active, history⟩ := proceeds_queue begins pending
  refine ⟨?_, ?_, ?_⟩
  · rw [proceeds_add]
    exact proceed_of_empty (active.trans (by rw [Nat.zero_add])) empty
  · rw [show applied.inspection = _ from inspection, called]
    rfl
  · rw [show applied.history = _ from history, called]

/-- A call that processes the commands and is not interrupted is that of the inspection, with the
number it returns and the state it leaves. -/
theorem process_uninterrupted {exchange : Exchange} (idle : exchange.activity = .idle) :
    ∃ count, let queue := exchange.shared.queue
      let reached := (exchange.call false).proceeds count
      exchange.inspection.process = (queue.length, reached.inspection) ∧
        reached.activity = .idle ∧
        reached.history = exchange.history ++ (Call.process queue).events := by
  obtain ⟨returned, processed, history⟩ := proceeds_processing idle false
  refine ⟨exchange.shared.queue.length + 1, ?_⟩
  intro queue reached
  rw [show reached = _ from returned]
  refine ⟨processed, rfl, ?_⟩
  rw [Call.events, ← List.append_assoc, ← history]
  rfl

/-- An iteration returns once it has run its ticks, or before if the console stops, and returns how
many it has run. -/
theorem proceed_of_done {exchange : Exchange} {ticks : Nat}
    (activity : exchange.activity = .running ticks)
    (done : ¬ (ticks < exchange.session.config.ticksPerIteration ∧
      ¬ exchange.session.console.isStopped)) :
    exchange.proceed = { exchange.record (.iterated ticks) with activity := .idle } := by
  simp only [proceed, activity, runOn, if_neg done]

/-- As long as there are ticks left and the console is awake, the next step of an iteration is a
tick. -/
theorem proceed_of_ticking {exchange : Exchange} {ticks : Nat}
    (activity : exchange.activity = .running ticks)
    (within : ticks < exchange.session.config.ticksPerIteration)
    (awake : ¬ exchange.session.console.isStopped) :
    exchange.proceed = exchange.tick ticks := by
  simp only [proceed, activity, runOn, if_pos (And.intro within awake)]

/-- The session runs `more` ticks, returns, and leaves `console`. -/
structure Returns (before after : Exchange) (more total : Nat) (console : Console) : Prop where
  shared : after.shared = before.shared
  session : after.session = { before.session with console }
  idle : after.activity = .idle
  history : after.history =
    before.history ++ List.replicate more .ticked ++ [.iterated total]

/-- An iteration that has nothing left to run returns in one step, with the console as it is and the
ticks that it has run before. -/
theorem returns_of_done {exchange : Exchange} {ticks : Nat}
    (activity : exchange.activity = .running ticks)
    (done : ¬ (ticks < exchange.session.config.ticksPerIteration ∧
      ¬ exchange.session.console.isStopped)) :
    Returns exchange (exchange.proceeds 1) 0 ticks exchange.session.console := by
  rw [proceeds_succ, proceed_of_done activity done]
  exact ⟨rfl, rfl, rfl, congrArg (· ++ _) (List.append_nil _).symm⟩

/-- One tick, and then a return after the others, is a return after one more tick. The step from
which the induction over ticks is made. -/
theorem Returns.of_tick {before after : Exchange} {ticks more total : Nat} {console : Console}
    (later : Returns (before.tick ticks) after more total console) :
    Returns before after (more + 1) total console := by
  refine ⟨later.shared, later.session, later.idle, ?_⟩
  rw [later.history, List.replicate_succ]
  show before.history ++ [.ticked] ++ _ ++ _ = _
  rw [List.append_assoc before.history]
  rfl

/-- The session runs ticks until the iteration returns, and these are the ticks of the loop. By
induction on those that are left. -/
theorem proceeds_ticks {exchange : Exchange} {ticks limit : Nat}
    (activity : exchange.activity = .running ticks)
    (budget : ticks + limit = exchange.session.config.ticksPerIteration) :
    ∃ more, (Session.runTicks exchange.session.console limit ticks).1 = ticks + more ∧
      Returns exchange (exchange.proceeds (more + 1)) more (ticks + more)
        (Session.runTicks exchange.session.console limit ticks).2 := by
  -- The induction is on what is left of the budget, which a stop of the debugger leaves unused.
  induction limit generalizing exchange ticks with
  | zero => exact ⟨0, rfl, returns_of_done activity (by omega)⟩
  | succ limit ih =>
      by_cases stopped : exchange.session.console.isStopped = true
      · have held : Session.runTicks exchange.session.console (limit + 1) ticks =
            (ticks, exchange.session.console) := by
          rw [Session.runTicks, if_pos stopped]
        rw [held]
        exact ⟨0, rfl, returns_of_done activity fun going => going.2 stopped⟩
      · have goes : Session.runTicks exchange.session.console (limit + 1) ticks =
            Session.runTicks exchange.session.console.tick limit (ticks + 1) := by
          rw [Session.runTicks, if_neg stopped]
        have remaining : ticks + 1 + limit = exchange.session.config.ticksPerIteration :=
          (Nat.add_right_comm ticks 1 limit).trans budget
        obtain ⟨more, total, later⟩ := @ih (exchange.tick ticks) (ticks + 1) rfl remaining
        have count : ticks + 1 + more = ticks + (more + 1) := by omega
        rw [count] at total later
        rw [goes]
        refine ⟨more + 1, total, ?_⟩
        rw [proceeds_succ, proceed_of_ticking activity (by omega) stopped]
        exact later.of_tick

/-- A paused session runs no ticks. -/
theorem run_of_paused {session : Session} (paused : session.paused = true) :
    session.run = (0, session) :=
  if_pos paused

/-- A session that is not paused runs ticks until it has run as many as are set, or the console
stops. -/
theorem run_of_going {session : Session} (going : session.paused = false) :
    session.run =
      ((Session.runTicks session.console session.config.ticksPerIteration 0).1,
        { session with
          console := (Session.runTicks session.console session.config.ticksPerIteration 0).2 }) :=
  if_neg (Bool.eq_false_iff.mp going)

/-- Running the session of an inspection leaves what the two sides share alone: queue, report and
screens. -/
theorem runSession_inspection (exchange : Exchange) :
    exchange.inspection.runSession =
      (exchange.session.run.1, { exchange.shared with session? := some exchange.session.run.2 }) :=
  rfl

/-- After the commands of an iteration come its ticks, unless the session is paused, and then it
returns none at once. -/
theorem proceeds_run (exchange : Exchange) (count : Nat) :
    ∃ steps, let ticks := exchange.session.run.1
      let reached := (exchange.finishProcessing true count).proceeds steps
      reached.shared = exchange.shared ∧ reached.session = exchange.session.run.2 ∧
        reached.activity = .idle ∧
        reached.history = exchange.history ++
          .processed count :: (List.replicate ticks .ticked ++ [.iterated ticks]) := by
  cases paused : exchange.session.paused with
  | true =>
      refine ⟨0, ?_⟩
      rw [run_of_paused paused]
      simp only [finishProcessing, paused, Bool.not_true, Bool.false_eq_true, ↓reduceIte]
      exact ⟨rfl, rfl, rfl, List.append_assoc _ _ _⟩
  | false =>
      have running : exchange.finishProcessing true count =
          { exchange.record (.processed count) with activity := .running 0 } := by
        simp only [finishProcessing, paused, Bool.not_true, Bool.false_eq_true, ↓reduceIte]
      have begins : (exchange.finishProcessing true count).activity = .running 0 := by
        rw [running]
      obtain ⟨more, total, returns⟩ := proceeds_ticks begins (Nat.zero_add _)
      rw [running] at total returns
      have ticks : (Session.runTicks exchange.session.console
          exchange.session.config.ticksPerIteration 0).1 = more := total.trans (Nat.zero_add more)
      refine ⟨more + 1, ?_⟩
      rw [run_of_going paused, running, ticks]
      refine ⟨returns.shared, returns.session, returns.idle, ?_⟩
      rw [returns.history, Nat.zero_add, List.append_assoc]
      exact List.append_assoc _ [_] _

/-- An iteration that is not interrupted is that of the inspection: it applies what waits, then runs
its ticks, and leaves the same state. -/
theorem iterate_uninterrupted {exchange : Exchange} (idle : exchange.activity = .idle) :
    ∃ count, let queue := exchange.shared.queue
      let reached := (exchange.call true).proceeds count
      exchange.inspection.iterate.2 = reached.inspection ∧
        reached.activity = .idle ∧
        reached.history =
          exchange.history ++ (Call.iterate queue exchange.inspection.iterate.1).events := by
  obtain ⟨returned, processed, history⟩ := proceeds_processing idle true
  obtain ⟨steps, shared, session, returns, ran⟩ := proceeds_run
    ((exchange.call true).proceeds exchange.shared.queue.length) exchange.shared.queue.length
  refine ⟨exchange.shared.queue.length + 1 + steps, ?_⟩
  rw [proceeds_add, returned, Inspection.iterate, processed, runSession_inspection]
  refine ⟨?_, returns, ?_⟩
  · rw [inspection, shared, session]
  · rw [ran, history, List.append_assoc]
    rfl

end Exchange

end Handheld
