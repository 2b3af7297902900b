import Mathlib.Data.List.Induction
import Handheld.Proofs.Inspection.Commands
import Handheld.Proofs.Inspection.Exchange

/-!
# What holds at any moment of an inspection

Whatever the interleaving of sends with the steps of the session's calls, the commands that were
applied and those in the queue are those that were sent, the session is what the applied commands
and the ticks make of it one after the other, and the calls do not mix commands and ticks
(`Exchange.Sound`). Every turn keeps this so (`Exchange.Sound.turn`), and with it every schedule
(`Exchange.sound_run`).
-/

namespace Handheld

/-! ## Histories -/

namespace Event

def sent? : Event → Option Command
  | sent command => some command
  | _ => none

def applied? : Event → Option Command
  | applied command => some command
  | _ => none

def iterated? : Event → Option Nat
  | iterated ticks => some ticks
  | _ => none

/-- Whether a call returns, or a part of it. -/
def isReturn : Event → Bool
  | processed _ | iterated _ => true
  | _ => false

end Event

/-- The commands sent in a history, the first one first. -/
def sentIn (history : List Event) : List Command := history.filterMap Event.sent?

/-- The commands applied in a history, the first one first. -/
def appliedIn (history : List Event) : List Command := history.filterMap Event.applied?

/-- The numbers of ticks that iterations have returned. -/
def iterationsIn (history : List Event) : List Nat := history.filterMap Event.iterated?

/-- What happened on the session's side. -/
def ownIn (history : List Event) : List Event := history.filter fun event => event.sent?.isNone

/-- An event that sends adds its command to those that were sent, and any other event adds none. -/
theorem sentIn_concat (history : List Event) (event : Event) :
    sentIn (history ++ [event]) = sentIn history ++ event.sent?.toList := by
  rw [sentIn, List.filterMap_append]
  cases event <;> rfl

/-- An event that applies adds its command to those that were applied, and any other event adds
none. -/
theorem appliedIn_concat (history : List Event) (event : Event) :
    appliedIn (history ++ [event]) = appliedIn history ++ event.applied?.toList := by
  rw [appliedIn, List.filterMap_append]
  cases event <;> rfl

/-- The return of an iteration adds its number of ticks. -/
theorem iterationsIn_concat (history : List Event) (event : Event) :
    iterationsIn (history ++ [event]) = iterationsIn history ++ event.iterated?.toList := by
  rw [iterationsIn, List.filterMap_append]
  cases event <;> rfl

/-- The queue moves in step with the history: what an event takes out of the queue is applied, and
what it adds to the queue is sent. So applied and waiting commands together remain those that were
sent. -/
theorem order_concat {history : List Event} {queue after : List Command} {event : Event}
    (order : appliedIn history ++ queue = sentIn history)
    (moved : event.applied?.toList ++ after = queue ++ event.sent?.toList) :
    appliedIn (history ++ [event]) ++ after = sentIn (history ++ [event]) := by
  rw [appliedIn_concat, sentIn_concat, ← order, List.append_assoc, moved, List.append_assoc]

/-- What does not come from the inspector happens on the side of the session. -/
theorem ownIn_concat {event : Event} (own : event.sent? = none) (history : List Event) :
    ownIn (history ++ [event]) = ownIn history ++ [event] := by
  rw [ownIn, List.filter_append, List.filter_singleton, own]
  rfl

/-- A command that is sent does not happen on the side of the session. -/
theorem ownIn_concat_sent (history : List Event) (command : Command) :
    ownIn (history ++ [.sent command]) = ownIn history :=
  (List.filter_append _ _).trans (List.append_nil _)

/-- A session after an event: it obeys a command that is applied and runs a tick. -/
def Session.afterEvent (session : Session) : Event → Session
  | .applied command => session.obey command
  | .ticked => { session with console := session.console.tick }
  | .sent _ | .processed _ | .iterated _ => session

/-- The applied commands and the ticks of a history, one after the other. -/
def Session.replay (session : Session) (history : List Event) : Session :=
  history.foldl afterEvent session

/-- What an event means for a session. A command that is applied has its effect, a tick is one of
the console, and nothing else that happens concerns the session. -/
def Session.Follows (before after : Session) : Event → Prop
  | .applied command => before.Obeys after command
  | .ticked => after = { before with console := before.console.tick }
  | .sent _ | .processed _ | .iterated _ => after = before

/-- Every event means for a session what it should: a command has its own effect, a tick is a tick
of the console, and all else leaves the session alone. -/
theorem Session.follows_afterEvent (session : Session) (event : Event) :
    session.Follows (session.afterEvent event) event := by
  cases event with
  | applied command => exact session.obeys_obey command
  | ticked | sent | processed | iterated => exact rfl

/-- Replaying one more event lets it follow what was replayed so far, whatever the history before it
is. -/
theorem Session.follows_replay (begun : Session) (history : List Event) (event : Event) :
    (begun.replay history).Follows (begun.replay (history ++ [event])) event := by
  have last : begun.replay (history ++ [event]) = (begun.replay history).afterEvent event :=
    List.foldl_concat _ _ _ _
  rw [last]
  exact follows_afterEvent _ event

/-- The session after one more event is the replay of the longer history, if the session before was
that of the history so far. -/
theorem Session.afterEvent_replay {begun session : Session} {history : List Event}
    (replayed : session = begun.replay history) (event : Event) :
    session.afterEvent event = begun.replay (history ++ [event]) := by
  rw [replayed]
  exact (List.foldl_concat _ _ _ _).symm

/-- Where a history that has grown by one event is split at an event, this is one of the earlier
events or the new one. Conditions on all splits are carried on by these two cases. -/
theorem concat_eq_append_cons {history before after : List Event} {last event : Event}
    (split : history ++ [last] = before ++ event :: after) :
    (∃ earlier, after = earlier ++ [last] ∧ history = before ++ event :: earlier) ∨
      (after = [] ∧ before = history ∧ event = last) := by
  rcases List.eq_nil_or_concat after with rfl | ⟨earlier, final, rfl⟩
  · obtain ⟨rfl, same⟩ := List.append_inj' split rfl
    exact .inr ⟨rfl, rfl, (List.cons.inj same).1.symm⟩
  · rw [List.concat_eq_append] at split ⊢
    have whole : history ++ [last] = (before ++ event :: earlier) ++ [final] := by
      rw [split, List.append_assoc]
      rfl
    obtain ⟨same, final⟩ := List.append_inj' whole rfl
    exact .inl ⟨earlier, by rw [(List.cons.inj final).1], same⟩

/-- What is true when an event happens, given what happened before. Processing returns with nothing
left of what was sent, and ticks run while the session is not paused. -/
def Session.Allows (begun : Session) (before : List Event) : Event → Prop
  | .processed _ => appliedIn before = sentIn before
  | .ticked => (begun.replay before).paused = false
  | .sent _ | .applied _ | .iterated _ => True

/-- Every event of a history was allowed when it happened. -/
def Session.AllowsAll (begun : Session) (history : List Event) : Prop :=
  ∀ before event after, history = before ++ event :: after → begun.Allows before event

/-- The report is that of the session at the latest request. -/
structure Session.Reports (begun : Session) (history : List Event) (report? : Option CpuDebugInfo) :
    Prop where
  none : .applied .requestCpuDebugInfo ∉ history → report? = none
  latest : ∀ before after, history = before ++ .applied .requestCpuDebugInfo :: after →
    .applied .requestCpuDebugInfo ∉ after →
      report? = some (CpuDebugInfo.of (begun.replay before).console (begun.replay before).paused)

namespace Session

variable {begun : Session} {history : List Event} {event : Event}

/-- A history of allowed events can be continued by an event that is allowed after it. -/
theorem AllowsAll.concat (allowsAll : begun.AllowsAll history)
    (allowed : begun.Allows history event) : begun.AllowsAll (history ++ [event]) := by
  intro before other after split
  rcases concat_eq_append_cons split with ⟨earlier, rfl, same⟩ | ⟨rfl, rfl, rfl⟩
  · exact allowsAll before other earlier same
  · exact allowed

/-- An event that is no request for a report leaves the last report valid, since the latest request
is still the same one and the session at the time was the same too. -/
theorem Reports.concat {report? : Option CpuDebugInfo} (reports : begun.Reports history report?)
    (other : event ≠ .applied .requestCpuDebugInfo) :
    begun.Reports (history ++ [event]) report? := by
  refine ⟨fun absent => reports.none ?_, ?_⟩
  · intro member
    exact absent (List.mem_append_left _ member)
  · intro before after split latest
    rcases concat_eq_append_cons split with ⟨earlier, rfl, same⟩ | ⟨_, _, same⟩
    · exact reports.latest before earlier same fun member =>
        latest (List.mem_append_left _ member)
    · exact absurd same.symm other

/-- The report that a request leaves is that of the session at the time, and this request is the
latest. -/
theorem reports_request (begun : Session) (history : List Event) :
    begun.Reports (history ++ [.applied .requestCpuDebugInfo])
      (some (CpuDebugInfo.of (begun.replay history).console (begun.replay history).paused)) := by
  refine ⟨fun absent => absurd (List.mem_append_right _ (List.mem_singleton_self _)) absent, ?_⟩
  intro before after split latest
  rcases concat_eq_append_cons split with ⟨earlier, rfl, _⟩ | ⟨_, rfl, _⟩
  · exact absurd (List.mem_append_right _ (List.mem_singleton_self _)) latest
  · rfl

end Session

/-- The events of a call that has not returned. -/
def Activity.Shows : Activity → List Event → Prop
  | idle, events => events = []
  | processing _ count, events =>
    ∃ commands : List Command, commands.length = count ∧ events = commands.map .applied
  | running ticks, events =>
    ∃ commands : List Command, events =
      commands.map .applied ++ .processed commands.length :: List.replicate ticks .ticked

/-- What happened on the session's side is one call after the other, the last of which may not have
returned. Processing returns the number of commands it applied, and between the ticks of an
iteration nothing is applied. -/
def Activity.InCalls (activity : Activity) (history : List Event) : Prop :=
  ∃ (calls : List Call) (events : List Event),
    ownIn history = calls.flatMap Call.events ++ events ∧ activity.Shows events

/-- When a call returns, what happened on the side of the session is a list of whole calls again,
and no call is left open. -/
theorem Activity.inCalls_of_return {history : List Event} (calls : List Call) (call : Call)
    (own : ownIn history = calls.flatMap Call.events ++ call.events) :
    Activity.idle.InCalls history := by
  refine ⟨calls ++ [call], [], ?_, rfl⟩
  rw [own, List.flatMap_append, List.flatMap_singleton, List.append_nil]

/-! ## Invariants of an exchange -/

namespace Exchange

/-- A command that asks for no report leaves the last one as it is, also if it asks for a frame. -/
theorem report?_answer (inspection : Inspection) (session : Session) {command : Command}
    (other : command ≠ .requestCpuDebugInfo) :
    (inspection.answer session command).report? = inspection.report? := by
  cases command with
  | requestScreenDraw =>
      change (Inspection.draw _ _).report? = _
      unfold Inspection.draw
      split <;> rfl
  | requestCpuDebugInfo => exact absurd rfl other
  | setKey | setPause | loadRom => rfl

/-- What holds at any moment, whatever the session is doing. -/
structure Faithful (begun : Session) (exchange : Exchange) : Prop where
  order : appliedIn exchange.history ++ exchange.shared.queue = sentIn exchange.history
  session : exchange.session = begun.replay exchange.history
  reports : begun.Reports exchange.history exchange.shared.report?
  allowed : begun.AllowsAll exchange.history

/-- What holds at any moment, and what the session is doing. -/
structure Sound (begun : Session) (exchange : Exchange) : Prop
    extends Faithful begun exchange where
  inCalls : exchange.activity.InCalls exchange.history
  going : ∀ ticks, exchange.activity = .running ticks → exchange.session.paused = false

/-- At the start nothing was sent, applied or reported, and the session is in no call. Every
condition on the history holds of the empty one. -/
theorem sound_start (console : Console) (config : SessionConfig) (screens : Array (Array Byte))
    (target? : Option Nat) :
    Sound ⟨console, config, false⟩ (start console config screens target?) where
  order := rfl
  session := rfl
  reports := ⟨fun _ => rfl, fun before after split => by cases before <;> cases split⟩
  allowed before event after split := by cases before <;> cases split
  inCalls := ⟨[], [], rfl, rfl⟩
  going ticks active := by cases active

variable {begun : Session} {exchange : Exchange}

/-- That a call returns concerns neither the commands nor the console. It only has to be allowed at
this point of the history. -/
theorem Faithful.record (faithful : Faithful begun exchange) (event : Event)
    (returns : event.isReturn = true) (allowed : begun.Allows exchange.history event) :
    Faithful begun (exchange.record event) where
  order := by
    refine order_concat faithful.order ?_
    cases event <;> cases returns <;> exact (List.append_nil _).symm
  session := by
    refine Eq.trans ?_ (Session.afterEvent_replay faithful.session event)
    cases event <;> cases returns <;> rfl
  reports := faithful.reports.concat fun same => by
    rw [same] at returns
    cases returns
  allowed := faithful.allowed.concat allowed

/-- What the session is doing is no part of it. -/
theorem Faithful.withActivity (faithful : Faithful begun exchange) (activity : Activity) :
    Faithful begun { exchange with activity } :=
  ⟨faithful.order, faithful.session, faithful.reports, faithful.allowed⟩

/-- With an empty queue everything that was sent has been applied, so that processing may return. -/
theorem Faithful.allProcessed (faithful : Faithful begun exchange)
    (empty : exchange.shared.queue = []) (count : Nat) :
    begun.Allows exchange.history (.processed count) := by
  have order := faithful.order
  rw [empty, List.append_nil] at order
  exact order

namespace Sound

/-- The inspector may send at any time. The command joins the queue, and what the session is doing
goes on. -/
theorem send (sound : Sound begun exchange) (command : Command) :
    Sound begun (exchange.send command) where
  order := order_concat sound.order rfl
  session := Session.afterEvent_replay sound.session (.sent command)
  reports := sound.reports.concat (by rintro ⟨⟩)
  allowed := sound.allowed.concat trivial
  inCalls := by
    obtain ⟨calls, events, own, shows⟩ := sound.inCalls
    exact ⟨calls, events, (ownIn_concat_sent _ command).trans own, shows⟩
  going := sound.going

/-- A session that is free begins a call, which opens one that has done nothing so far. A session
that is not free goes on with the call it is in. -/
theorem call (sound : Sound begun exchange) (iterating : Bool) :
    Sound begun (exchange.call iterating) := by
  unfold Exchange.call
  split
  · rename_i idle
    obtain ⟨calls, events, own, shows⟩ := sound.inCalls
    rw [idle] at shows
    refine ⟨sound.withActivity _, ?_, ?_⟩
    · exact ⟨calls, events, own, [], rfl, shows⟩
    · rintro ticks ⟨⟩
  · exact sound

/-- The session applies the oldest command. It leaves the queue, joins those that were applied, and
if it asks for a report, the report is made now. -/
theorem applyNext (sound : Sound begun exchange) {iterating : Bool} {count : Nat}
    (activity : exchange.activity = .processing iterating count) {command : Command}
    {rest : List Command} (pending : exchange.shared.queue = command :: rest) :
    Sound begun (exchange.applyNext iterating count command rest) where
  order := by
    refine order_concat sound.order ?_
    change [command] ++ (Inspection.answer _ _ _).queue = exchange.shared.queue ++ []
    rw [queue_answer, pending, List.append_nil]
    rfl
  session := Session.afterEvent_replay sound.session (.applied command)
  reports := by
    by_cases request : command = .requestCpuDebugInfo
    · subst request
      have reported := begun.reports_request exchange.history
      rw [← sound.session] at reported
      exact reported
    · have kept : (exchange.applyNext iterating count command rest).shared.report? =
          exchange.shared.report? := report?_answer _ _ request
      rw [kept]
      exact sound.reports.concat fun same => request (Event.applied.inj same)
  allowed := sound.allowed.concat trivial
  inCalls := by
    obtain ⟨calls, events, own, shows⟩ := sound.inCalls
    rw [activity] at shows
    obtain ⟨commands, length, rfl⟩ := shows
    refine ⟨calls, (commands ++ [command]).map .applied, ?_, commands ++ [command], ?_, rfl⟩
    · change ownIn (exchange.history ++ [.applied command]) = _
      rw [ownIn_concat rfl, own, List.append_assoc, List.map_append]
      rfl
    · rw [List.length_append, length]
      rfl
  going ticks active := by cases active

/-- When the queue is empty, the call has applied all its commands and says so. It is closed by
that, or goes on to its ticks if it is an iteration of a session that is not paused. -/
theorem finishProcessing (sound : Sound begun exchange) {iterating : Bool} {count : Nat}
    (activity : exchange.activity = .processing iterating count)
    (empty : exchange.shared.queue = []) :
    Sound begun (exchange.finishProcessing iterating count) := by
  have processed := sound.record (.processed count) rfl (sound.allProcessed empty count)
  obtain ⟨calls, events, own, shows⟩ := sound.inCalls
  rw [activity] at shows
  obtain ⟨commands, rfl, rfl⟩ := shows
  have ownProcessed : ownIn (exchange.history ++ [.processed commands.length]) =
      calls.flatMap Call.events ++ (commands.map .applied ++ [.processed commands.length]) := by
    rw [ownIn_concat rfl, own, List.append_assoc]
  unfold Exchange.finishProcessing
  dsimp only
  split
  · refine ⟨processed.withActivity _, ?_, ?_⟩
    · exact Activity.inCalls_of_return calls (.process commands) ownProcessed
    · rintro ticks ⟨⟩
  · split
    · have returned := processed.record (.iterated 0) rfl trivial
      refine ⟨returned.withActivity _, ?_, ?_⟩
      · refine Activity.inCalls_of_return calls (.iterate commands 0) ?_
        change ownIn (exchange.history ++ [.processed commands.length] ++ [.iterated 0]) = _
        rw [ownIn_concat rfl, ownProcessed, List.append_assoc, List.append_assoc]
        rfl
      · rintro ticks ⟨⟩
    · rename_i going
      refine ⟨processed.withActivity _, ?_, ?_⟩
      · exact ⟨calls, _, ownProcessed, commands, rfl⟩
      · intro ticks _
        exact Bool.eq_false_iff.mpr going

/-- An iteration runs another tick. That is allowed, as the session was not paused when the ticks
began and no command comes in between. -/
theorem tick (sound : Sound begun exchange) {ticks : Nat}
    (activity : exchange.activity = .running ticks) :
    Sound begun (exchange.tick ticks) where
  order := order_concat sound.order (List.append_nil _).symm
  session := Session.afterEvent_replay sound.session .ticked
  reports := sound.reports.concat (by rintro ⟨⟩)
  allowed := by
    refine sound.allowed.concat ?_
    change (begun.replay exchange.history).paused = false
    rw [← sound.session]
    exact sound.going ticks activity
  inCalls := by
    obtain ⟨calls, events, own, shows⟩ := sound.inCalls
    rw [activity] at shows
    obtain ⟨commands, rfl⟩ := shows
    refine ⟨calls, _, ?_, commands, rfl⟩
    change ownIn (exchange.history ++ [.ticked]) = _
    rw [ownIn_concat rfl, own, List.replicate_succ', List.append_assoc, List.append_assoc]
    rfl
  going _ _ := sound.going ticks activity

/-- A tick is run if there are ticks left and nothing holds the console, and otherwise the iteration
returns. -/
theorem runOn (sound : Sound begun exchange) {ticks : Nat}
    (activity : exchange.activity = .running ticks) : Sound begun (exchange.runOn ticks) := by
  unfold Exchange.runOn
  split
  · exact sound.tick activity
  · have returned := sound.record (.iterated ticks) rfl trivial
    obtain ⟨calls, events, own, shows⟩ := sound.inCalls
    rw [activity] at shows
    obtain ⟨commands, rfl⟩ := shows
    refine ⟨returned.withActivity _, ?_, ?_⟩
    · refine Activity.inCalls_of_return calls (.iterate commands ticks) ?_
      change ownIn (exchange.history ++ [.iterated ticks]) = _
      rw [ownIn_concat rfl, own, List.append_assoc, List.append_assoc]
      rfl
    · rintro other ⟨⟩

/-- The session goes on with its call, whichever part of it comes next: the oldest command, the
return from processing, a tick, or the return of the iteration. -/
theorem proceed (sound : Sound begun exchange) : Sound begun exchange.proceed := by
  unfold Exchange.proceed
  split
  · exact sound
  · rename_i iterating count activity
    split
    · exact sound.applyNext activity ‹_›
    · exact sound.finishProcessing activity ‹_›
  · exact sound.runOn ‹_›

/-- Every turn keeps an exchange sound, whether the inspector takes it or the session, and also
where it can do nothing. -/
theorem turn (sound : Sound begun exchange) (turn : Turn) : Sound begun (exchange.turn turn) := by
  cases turn with
  | send command => exact sound.send command
  | process => exact sound.call false
  | iterate => exact sound.call true
  | proceed => exact sound.proceed

end Sound

/-- Every schedule keeps an exchange sound. By induction on its turns, whoever takes them. -/
theorem sound_run (sound : Sound begun exchange) (schedule : List Turn) :
    Sound begun (exchange.run schedule) := by
  induction schedule generalizing exchange with
  | nil => exact sound
  | cons next rest ih => exact ih (sound.turn next)

end Exchange

end Handheld
