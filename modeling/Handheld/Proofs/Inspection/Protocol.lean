import Handheld.Proofs.Inspection.Soundness

/-!
# The inspection protocol

The requests for a frame or a report can be taken out of a schedule without the console noticing
(`Exchange.mirrors_run`). Together with what holds at any moment of an inspection this is the
protocol: `Exchange.commands_applied_once_in_order`.
-/

namespace Handheld

/-! ## Requests -/

/-- The commands that only ask for something. -/
def Command.isRequest : Command → Bool
  | requestScreenDraw | requestCpuDebugInfo => true
  | setKey .. | setPause _ | loadRom _ => false

/-- A request does nothing to the session. -/
theorem Session.obey_request {command : Command} (request : command.isRequest = true)
    (session : Session) : session.obey command = session := by
  cases command <;> cases request <;> rfl

/-- Both are in the same place of a call, where one may have applied more commands. -/
inductive Activity.SameCall : Activity → Activity → Prop
  | idle : SameCall .idle .idle
  | processing (iterating : Bool) (count other : Nat) :
    SameCall (.processing iterating count) (.processing iterating other)
  | running (ticks : Nat) : SameCall (.running ticks) (.running ticks)

namespace Activity.SameCall

variable {activity : Activity}

/-- A session that is free is free without the requests too. There is no call for it to be in. -/
theorem of_idle (same : activity.SameCall .idle) : activity = .idle := by
  cases same
  rfl

/-- Without the requests fewer commands may have been applied by now, but the call that applies them
is the same and has not returned in either. -/
theorem of_processing {iterating : Bool} {count : Nat}
    (same : activity.SameCall (.processing iterating count)) :
    ∃ other, activity = .processing iterating other := by
  cases same
  exact ⟨_, rfl⟩

/-- The ticks of an iteration are run in both exchanges at the same time, since a request is never
applied between them. -/
theorem of_running {ticks : Nat} (same : activity.SameCall (.running ticks)) :
    activity = .running ticks := by
  cases same
  rfl

end Activity.SameCall

def Turn.sent? : Turn → Option Command
  | send command => some command
  | process | iterate | proceed => none

namespace Exchange

/-- Whether a turn sends or applies a request. -/
def handlesRequest (exchange : Exchange) : Turn → Bool
  | .send command => command.isRequest
  | .proceed =>
    match exchange.activity, exchange.shared.queue with
    | .processing .., command :: _ => command.isRequest
    | _, _ => false
  | .process | .iterate => false

/-- A schedule without its requests: they are neither sent nor applied. -/
def withoutRequests (exchange : Exchange) : List Turn → List Turn
  | [] => []
  | next :: rest =>
    let others := (exchange.turn next).withoutRequests rest
    if exchange.handlesRequest next then others else next :: others

/-- An event that is not the return of an iteration adds no number of ticks. -/
theorem iterationsIn_concat_other {event : Event} (other : event.iterated? = none)
    (history : List Event) : iterationsIn (history ++ [event]) = iterationsIn history := by
  rw [iterationsIn_concat, other]
  exact List.append_nil _

/-- Histories with the same iterations still have the same ones after two more events, if these
return the same number of ticks or both return none. -/
theorem iterationsIn_concat_congr {first second : List Event}
    (same : iterationsIn first = iterationsIn second) {event other : Event}
    (events : event.iterated? = other.iterated?) :
    iterationsIn (first ++ [event]) = iterationsIn (second ++ [other]) := by
  rw [iterationsIn_concat, iterationsIn_concat, same, events]

/-- Two exchanges that differ in requests, and in what requests leave behind, only. -/
structure Mirrors (full reduced : Exchange) : Prop where
  session : reduced.session = full.session
  queue : reduced.shared.queue = full.shared.queue.filter (!·.isRequest)
  activity : reduced.activity.SameCall full.activity
  iterations : iterationsIn reduced.history = iterationsIn full.history

namespace Mirrors

variable {full reduced : Exchange}

/-- A request that is applied is not seen on the other side, where it was never sent: it changes
neither the session nor what is left of the queue without requests. -/
theorem skip_applyNext (mirrors : Mirrors full reduced) {iterating : Bool} {count : Nat}
    (activity : full.activity = .processing iterating count) {command : Command}
    {rest : List Command} (pending : full.shared.queue = command :: rest)
    (request : command.isRequest = true) :
    Mirrors (full.applyNext iterating count command rest) reduced where
  session := mirrors.session.trans (Session.obey_request request _).symm
  queue := by
    change _ = List.filter _ (Inspection.answer _ _ _).queue
    rw [mirrors.queue, pending, queue_answer, List.filter_cons, request]
    rfl
  activity := by
    have same := mirrors.activity
    rw [activity] at same
    obtain ⟨other, active⟩ := same.of_processing
    rw [active]
    exact .processing _ _ _
  iterations := mirrors.iterations.trans (iterationsIn_concat_other rfl _).symm

/-- A turn that sends or applies a request happens in the full exchange alone. The reduced one stays
as it is and still mirrors it, since requests are not seen in the queue it is compared with. -/
theorem skip (mirrors : Mirrors full reduced) {next : Turn}
    (handles : full.handlesRequest next = true) : Mirrors (full.turn next) reduced := by
  cases next with
  | send command =>
      have request : command.isRequest = true := handles
      refine ⟨mirrors.session, ?_, mirrors.activity,
        mirrors.iterations.trans (iterationsIn_concat_other rfl _).symm⟩
      change _ = List.filter _ (full.shared.queue ++ [command])
      rw [mirrors.queue, List.filter_append, List.filter_singleton, request]
      exact (List.append_nil _).symm
  | proceed =>
      unfold handlesRequest at handles
      dsimp only at handles
      split at handles
      · rename_i iterating count command rest activity pending
        change Mirrors full.proceed reduced
        rw [proceed_of_pending activity pending]
        exact mirrors.skip_applyNext activity pending handles
      · cases handles
  | process | iterate => cases handles

/-- Any other command is sent in both exchanges. It joins both queues, and without the requests
these are still the same. -/
theorem send (mirrors : Mirrors full reduced) {command : Command}
    (other : command.isRequest = false) :
    Mirrors (full.send command) (reduced.send command) where
  session := mirrors.session
  queue := by
    change reduced.shared.queue ++ [command] = List.filter _ (full.shared.queue ++ [command])
    rw [mirrors.queue, List.filter_append, List.filter_singleton, other]
    rfl
  activity := mirrors.activity
  iterations := iterationsIn_concat_congr mirrors.iterations rfl

/-- A call begins in both exchanges or in neither, since both sessions are free or neither is. A
session that is in a call already goes on with it in both. -/
theorem call (mirrors : Mirrors full reduced) (iterating : Bool) :
    Mirrors (full.call iterating) (reduced.call iterating) := by
  have same := mirrors.activity
  cases activity : full.activity with
  | idle =>
      rw [activity] at same
      simp only [Exchange.call, activity, same.of_idle]
      exact ⟨mirrors.session, mirrors.queue, .processing _ _ _, mirrors.iterations⟩
  | processing goingOn count =>
      rw [activity] at same
      obtain ⟨other, active⟩ := same.of_processing
      simp only [Exchange.call, activity, active]
      exact mirrors
  | running ticks =>
      rw [activity] at same
      simp only [Exchange.call, activity, same.of_running]
      exact mirrors

/-- Both exchanges record the return of the same call. They may return different numbers of
commands, as the full one counts requests too, but not different numbers of ticks. -/
theorem record (mirrors : Mirrors full reduced) {event other : Event}
    (same : event.iterated? = other.iterated?) :
    Mirrors (full.record event) (reduced.record other) where
  session := mirrors.session
  queue := mirrors.queue
  activity := mirrors.activity
  iterations := iterationsIn_concat_congr mirrors.iterations same.symm

/-- Both exchanges go on to the same part of a call. Sessions, queues and iterations are left as
they are. -/
theorem withActivity (mirrors : Mirrors full reduced) {ours theirs : Activity}
    (same : theirs.SameCall ours) :
    Mirrors { full with activity := ours } { reduced with activity := theirs } :=
  ⟨mirrors.session, mirrors.queue, same, mirrors.iterations⟩

/-- Any other command is applied to two sessions that are the same. It is the first of both queues,
since requests before it are gone. -/
theorem applyNext (mirrors : Mirrors full reduced) {iterating : Bool} {count other : Nat}
    {command : Command} {rest : List Command} :
    Mirrors (full.applyNext iterating count command rest)
      (reduced.applyNext iterating other command (rest.filter (!·.isRequest))) where
  session := congrArg (Session.obey · command) mirrors.session
  queue := by
    change (Inspection.answer _ _ _).queue = List.filter _ (Inspection.answer _ _ _).queue
    rw [queue_answer, queue_answer]
  activity := .processing _ _ _
  iterations := iterationsIn_concat_congr mirrors.iterations rfl

/-- Both queues are empty at the same time, and the same sessions go on to the same ticks, or to
none. -/
theorem finishProcessing (mirrors : Mirrors full reduced) (iterating : Bool) (count other : Nat) :
    Mirrors (full.finishProcessing iterating count)
      (reduced.finishProcessing iterating other) := by
  have processed : Mirrors (full.record (.processed count)) (reduced.record (.processed other)) :=
    mirrors.record rfl
  unfold Exchange.finishProcessing
  rw [mirrors.session]
  dsimp only
  split
  · exact processed.withActivity .idle
  · split
    · exact (processed.record rfl).withActivity .idle
    · exact processed.withActivity (.running 0)

/-- The same sessions run the same tick. -/
theorem tick (mirrors : Mirrors full reduced) (ticks : Nat) :
    Mirrors (full.tick ticks) (reduced.tick ticks) where
  session := by rw [Exchange.tick, Exchange.tick, mirrors.session]
  queue := mirrors.queue
  activity := .running (ticks + 1)
  iterations := iterationsIn_concat_congr mirrors.iterations rfl

/-- Both run a tick or both return, with the same number of ticks. -/
theorem runOn (mirrors : Mirrors full reduced) (ticks : Nat) :
    Mirrors (full.runOn ticks) (reduced.runOn ticks) := by
  unfold Exchange.runOn
  rw [mirrors.session]
  split
  · exact mirrors.tick ticks
  · exact (mirrors.record rfl).withActivity .idle

/-- A step of a call that handles no request is taken by both exchanges: each applies the same
command, returns from processing, runs the same tick, or returns from the iteration. -/
theorem proceed (mirrors : Mirrors full reduced)
    (handles : full.handlesRequest .proceed = false) : Mirrors full.proceed reduced.proceed := by
  have same := mirrors.activity
  cases activity : full.activity with
  | idle =>
      rw [activity] at same
      simp only [Exchange.proceed, activity, same.of_idle]
      exact mirrors
  | processing iterating count =>
      rw [activity] at same
      obtain ⟨other, active⟩ := same.of_processing
      have queue := mirrors.queue
      cases pending : full.shared.queue with
      | nil =>
          rw [pending] at queue
          rw [proceed_of_empty activity pending, proceed_of_empty active queue]
          exact mirrors.finishProcessing iterating count other
      | cons command rest =>
          have notRequest : command.isRequest = false := by
            simpa only [handlesRequest, activity, pending] using handles
          rw [pending, List.filter_cons, notRequest] at queue
          rw [proceed_of_pending activity pending, proceed_of_pending active queue]
          exact mirrors.applyNext
  | running ticks =>
      rw [activity] at same
      simp only [Exchange.proceed, activity, same.of_running]
      exact mirrors.runOn ticks

/-- Every turn that handles no request is taken by both exchanges. Together with `skip` this gives
one step of the simulation. -/
theorem follow (mirrors : Mirrors full reduced) {next : Turn}
    (handles : full.handlesRequest next = false) :
    Mirrors (full.turn next) (reduced.turn next) := by
  cases next with
  | send command => exact mirrors.send handles
  | process => exact mirrors.call false
  | iterate => exact mirrors.call true
  | proceed => exact mirrors.proceed handles

end Mirrors

/-- A schedule without its requests leads to the same session, by the same iterations. By induction
on the schedule, with `skip` for the requests and `follow` for all other turns. -/
theorem mirrors_run {full reduced : Exchange} (mirrors : Mirrors full reduced)
    (schedule : List Turn) :
    Mirrors (full.run schedule) (reduced.run (full.withoutRequests schedule)) := by
  induction schedule generalizing full reduced with
  | nil => exact mirrors
  | cons next rest ih =>
      unfold withoutRequests
      dsimp only
      split
      · exact ih (mirrors.skip ‹_›)
      · exact ih (mirrors.follow (Bool.eq_false_iff.mpr ‹_›))

/-! ## What is sent -/

/-- What happens on the side of the session sends nothing. -/
theorem sentIn_concat_own {event : Event} (own : event.sent? = none) (history : List Event) :
    sentIn (history ++ [event]) = sentIn history := by
  rw [sentIn_concat, own]
  exact List.append_nil _

/-- Whatever part of a call the session goes on with, it sends nothing. Commands come from the
inspector alone. -/
theorem sentIn_proceed (exchange : Exchange) :
    sentIn exchange.proceed.history = sentIn exchange.history := by
  unfold Exchange.proceed
  split
  · rfl
  · split
    · exact sentIn_concat_own rfl _
    · unfold Exchange.finishProcessing
      dsimp only
      split
      · exact sentIn_concat_own rfl _
      · split
        · exact (sentIn_concat_own rfl _).trans (sentIn_concat_own rfl _)
        · exact sentIn_concat_own rfl _
  · unfold Exchange.runOn
    split <;> exact sentIn_concat_own rfl _

/-- That a call begins is no event. -/
theorem history_call (exchange : Exchange) (iterating : Bool) :
    (exchange.call iterating).history = exchange.history := by
  unfold Exchange.call
  split <;> rfl

/-- A turn adds to what was sent exactly the command that it sends, if it is one of the inspector,
and nothing otherwise. -/
theorem sentIn_turn (exchange : Exchange) (next : Turn) :
    sentIn (exchange.turn next).history = sentIn exchange.history ++ next.sent?.toList := by
  cases next with
  | send command => exact sentIn_concat _ _
  | process =>
      change sentIn (exchange.call false).history = _ ++ []
      rw [history_call, List.append_nil]
  | iterate =>
      change sentIn (exchange.call true).history = _ ++ []
      rw [history_call, List.append_nil]
  | proceed => exact exchange.sentIn_proceed.trans (List.append_nil _).symm

/-- What a history says was sent is what the turns of the schedule send, in their order. By
induction on the schedule. -/
theorem sentIn_run (exchange : Exchange) (schedule : List Turn) :
    sentIn (exchange.run schedule).history =
      sentIn exchange.history ++ schedule.filterMap Turn.sent? := by
  induction schedule generalizing exchange with
  | nil => exact (List.append_nil _).symm
  | cons next rest ih =>
      change sentIn ((exchange.turn next).run rest).history = _
      rw [ih, sentIn_turn, List.append_assoc, List.filterMap_cons]
      cases next.sent? <;> rfl

/-- A schedule without its requests sends what the schedule sends, without the requests. The turns
that apply a request are left out too, but these send nothing. -/
theorem sent_withoutRequests (exchange : Exchange) (schedule : List Turn) :
    (exchange.withoutRequests schedule).filterMap Turn.sent? =
      (schedule.filterMap Turn.sent?).filter (!·.isRequest) := by
  induction schedule generalizing exchange with
  | nil => rfl
  | cons next rest ih =>
      unfold withoutRequests
      dsimp only
      cases next with
      | send command =>
          change List.filterMap Turn.sent? (if command.isRequest then _ else _) = _
          cases request : command.isRequest with
          | true =>
              rw [if_pos rfl, ih, List.filterMap_cons]
              simp only [Turn.sent?, List.filter_cons, request, Bool.not_true, Bool.false_eq_true,
                ↓reduceIte]
          | false =>
              rw [if_neg Bool.false_ne_true, List.filterMap_cons, List.filterMap_cons, ih]
              simp only [Turn.sent?, List.filter_cons, request, Bool.not_false, ↓reduceIte]
      | process | iterate => exact ih _
      | proceed =>
          split
          · exact ih _
          · exact ih _

/-- Commands of an inspector are applied once each and in the order in which they are sent, whenever
they are sent: between the calls of the session or while it is inside of one.

The commands that were applied and then those in the queue are those that were sent. The session is
what the applied commands and the ticks make of it, one after the other, each of them with its own
effect on what the earlier ones have left. It works in calls, each of which applies some commands
and returns their number, with an empty queue, and may then run ticks, which it does only while it
is not paused, and return their number. The report describes the session as it was when the latest
request for it was applied, after exactly the commands that were sent before.
Without the requests for frames and reports the session is the same and so are the numbers of ticks.
Sending is `Inspection.send`, and a call that nothing interrupts is `Inspection.process` or
`Inspection.iterate`. -/
theorem commands_applied_once_in_order (console : Console) (config : SessionConfig)
    (screens : Array (Array Byte)) (target? : Option Nat) (schedule : List Turn) :
    let begun : Session := ⟨console, config, false⟩
    let started := start console config screens target?
    let reached := started.run schedule
    let history := reached.history
    let others := started.withoutRequests schedule
    (sentIn history = schedule.filterMap Turn.sent? ∧
      appliedIn history ++ reached.shared.queue = sentIn history) ∧
    (reached.session = begun.replay history ∧ begun.replay [] = begun ∧
      (∀ before event after, history = before ++ event :: after →
        (begun.replay before).Follows (begun.replay (before ++ [event])) event) ∧
      reached.activity.InCalls history) ∧
    (∀ before count after, history = before ++ .processed count :: after →
      appliedIn before = sentIn before) ∧
    (∀ before after, history = before ++ .ticked :: after →
      (begun.replay before).paused = false) ∧
    (.applied .requestCpuDebugInfo ∉ history → reached.shared.report? = none) ∧
    (∀ before after, history = before ++ .applied .requestCpuDebugInfo :: after →
      .applied .requestCpuDebugInfo ∉ after →
      let session := begun.replay before
      (∃ info, reached.shared.report? = some info ∧ info.Describes session) ∧
        sentIn history = appliedIn before ++
          .requestCpuDebugInfo :: (appliedIn after ++ reached.shared.queue)) ∧
    (others.filterMap Turn.sent? = (schedule.filterMap Turn.sent?).filter (!·.isRequest) ∧
      (started.run others).session = reached.session ∧
      iterationsIn (started.run others).history = iterationsIn history) ∧
    (∀ command, reached.inspection.send command = .ok (reached.send command).inspection) ∧
    (reached.activity = .idle →
      (∃ count, let returned := (reached.call false).proceeds count
        reached.inspection.process = (reached.shared.queue.length, returned.inspection) ∧
          returned.activity = .idle ∧
          returned.history = history ++ (Call.process reached.shared.queue).events) ∧
      ∃ count, let returned := (reached.call true).proceeds count
        reached.inspection.iterate.2 = returned.inspection ∧
          returned.activity = .idle ∧
          returned.history = history ++
            (Call.iterate reached.shared.queue reached.inspection.iterate.1).events) := by
  intro begun started reached history others
  have sound : Sound begun reached :=
    sound_run (sound_start console config screens target?) schedule
  have mirrors : Mirrors reached (started.run others) :=
    mirrors_run ⟨rfl, rfl, .idle, rfl⟩ schedule
  refine ⟨⟨sentIn_run started schedule, sound.order⟩, ⟨sound.session, rfl,
    fun before event _ _ => begun.follows_replay before event, sound.inCalls⟩, ?_, ?_,
    sound.reports.none, ?_, ?_, inspection_send reached, ?_⟩
  · intro before count after split
    exact sound.allowed before _ after split
  · intro before after split
    exact sound.allowed before _ after split
  · intro before after split latest
    refine ⟨⟨_, sound.reports.latest before after split latest, CpuDebugInfo.describes_of _⟩, ?_⟩
    change sentIn reached.history = _
    rw [← sound.order, show reached.history = _ from split, appliedIn, List.filterMap_append,
      List.append_assoc]
    rfl
  · exact ⟨sent_withoutRequests started schedule, mirrors.session, mirrors.iterations⟩
  · intro idle
    exact ⟨process_uninterrupted idle, iterate_uninterrupted idle⟩

end Exchange

end Handheld
