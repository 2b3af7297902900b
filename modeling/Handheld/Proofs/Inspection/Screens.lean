import Handheld.Proofs.Inspection.Soundness

/-!
# Refusals and screens

A `Dialogue` is an inspection with everything that can be done to it at any time: by the inspector,
by the owner of the screens and of the console, and by the session, which may be inside a call or
gone. Its log has what was done and what came of it. Whatever is done (`Dialogue.done_act`), the
screen that is drawn into is the one that was accepted last, and the report is the one that was left
last (`Dialogue.kept_run`). So a refusal leaves everything as it was, and a draw leaves a whole
frame in that screen (`Dialogue.refusals_keep_and_draws_are_frames`).
-/

namespace Handheld

/-! ## What a turn does -/

namespace Exchange

/-- What a turn adds to the history. -/
def added (exchange : Exchange) (next : Turn) : List Event :=
  (exchange.turn next).history.drop exchange.history.length

/-- What comes of a turn that adds these events. -/
inductive Effect (exchange : Exchange) : List Event → Exchange → Prop
  /-- The session enters a call, or returns from one or from a part of it. -/
  | moves (activity : Activity) (events : List Event)
      (returns : ∀ event ∈ events, event.isReturn = true) :
      Effect exchange events { exchange with activity, history := exchange.history ++ events }
  | sends (command : Command) : Effect exchange [.sent command] (exchange.send command)
  | applies {iterating : Bool} {count : Nat} {command : Command} {rest : List Command}
      (pending : exchange.shared.queue = command :: rest) :
      Effect exchange [.applied command] (exchange.applyNext iterating count command rest)
  | ticks (ticks : Nat) : Effect exchange [.ticked] (exchange.tick ticks)

namespace Effect

variable {exchange after : Exchange} {events : List Event}

/-- The history grows by the events of a turn. -/
theorem history (effect : exchange.Effect events after) :
    after.history = exchange.history ++ events := by
  cases effect <;> rfl

/-- Going on to another part of a call is no event. -/
theorem of_activity (exchange : Exchange) (activity : Activity) :
    exchange.Effect [] { exchange with activity } := by
  have moves : exchange.Effect [] { exchange with activity, history := exchange.history ++ [] } :=
    .moves activity [] nofun
  rwa [List.append_nil] at moves

/-- Beginning a call is no event, whether or not the session is free for it. -/
theorem of_call (exchange : Exchange) (iterating : Bool) :
    exchange.Effect [] (exchange.call iterating) := by
  unfold call
  split
  · exact of_activity exchange _
  · exact of_activity exchange exchange.activity

end Effect

/-- The end of processing is an event, and that of an iteration which has no ticks to run another
one. -/
theorem exists_effect_finishProcessing (exchange : Exchange) (iterating : Bool) (count : Nat) :
    ∃ events, exchange.Effect events (exchange.finishProcessing iterating count) := by
  unfold finishProcessing
  dsimp only
  split
  · exact ⟨_, .moves .idle [.processed count] (by simp [Event.isReturn])⟩
  · split
    · have twice : exchange.history ++ [.processed count] ++ [.iterated 0] =
          exchange.history ++ [.processed count, .iterated 0] := List.append_assoc _ _ _
      simp only [record, twice]
      exact ⟨_, .moves .idle [.processed count, .iterated 0] (by simp [Event.isReturn])⟩
    · exact ⟨_, .moves (.running 0) [.processed count] (by simp [Event.isReturn])⟩

/-- Every turn of an exchange is one of the possible effects, with the events that it adds to the
history. All that follows is shown by cases on these. -/
theorem exists_effect (exchange : Exchange) (next : Turn) :
    ∃ events, exchange.Effect events (exchange.turn next) := by
  cases next with
  | send command => exact ⟨_, .sends command⟩
  | process => exact ⟨_, .of_call exchange false⟩
  | iterate => exact ⟨_, .of_call exchange true⟩
  | proceed =>
      show ∃ events, exchange.Effect events exchange.proceed
      unfold proceed
      split
      · exact ⟨_, .of_activity exchange exchange.activity⟩
      · split
        · rename_i pending
          exact ⟨_, .applies pending⟩
        · exact exchange.exists_effect_finishProcessing _ _
      · unfold runOn
        split
        · exact ⟨_, .ticks _⟩
        · exact ⟨_, .moves .idle [.iterated _] (by simp [Event.isReturn])⟩

/-- The events of a turn are those that it adds to the history. -/
theorem effect_turn (exchange : Exchange) (next : Turn) :
    exchange.Effect (exchange.added next) (exchange.turn next) := by
  obtain ⟨events, effect⟩ := exchange.exists_effect next
  have same : exchange.added next = events := by rw [added, effect.history, List.drop_left]
  rwa [same]

end Exchange

/-! ## Dialogues -/

/-- What can be done to an inspection. -/
inductive Act where
  /-- The inspector sends a command. -/
  | send (command : Command)
  /-- The inspector has frames drawn into a screen. -/
  | setScreen (index : Nat)
  /-- The owner of the screens adds one. -/
  | addScreen (screen : Array Byte)
  /-- The owner of the screens changes one, or its size. -/
  | modifyScreen (index : Nat) (f : Array Byte → Array Byte)
  /-- The session is called to process the commands. -/
  | process
  /-- The session is called to iterate. -/
  | iterate
  /-- The session takes the next step of its call. -/
  | proceed
  /-- The owner of the session changes the console between two calls. -/
  | modifyConsole (f : Console → Console)
  /-- The owner of the session ends it between two calls. -/
  | finish

/-- What was done, and what came of it. -/
inductive LogEntry where
  /-- Something happened to a session, which is given as it was before. -/
  | event (session : Session) (event : Event)
  /-- A screen was accepted as the one to draw into. -/
  | accepted (index : Nat)
  /-- A command or a screen was refused. -/
  | refused (error : ProtocolError)
  /-- The console was changed. -/
  | changed (f : Console → Console)
  /-- The session ended. -/
  | ended

namespace LogEntry

def event? : LogEntry → Option Event
  | event _ happened => some happened
  | _ => none

def accepted? : LogEntry → Option Nat
  | accepted index => some index
  | _ => none

/-- The report that was left. -/
def report? : LogEntry → Option CpuDebugInfo
  | event session (.applied .requestCpuDebugInfo) =>
    some (CpuDebugInfo.of session.console session.paused)
  | _ => none

end LogEntry

namespace Inspection

variable (inspection : Inspection) (session : Session) (command : Command)

/-- No command of the queue changes which screen is drawn into. Only the inspector does, outside of
it. -/
theorem target?_answer : (inspection.answer session command).target? = inspection.target? := by
  obtain ⟨_, report?, screens, target?, session?⟩ := inspection
  cases command with
  | requestScreenDraw => cases target? <;> rfl
  | requestCpuDebugInfo | setKey | setPause | loadRom => rfl

/-- A draw replaces the contents of one screen by a frame, so that the screens stay as many as they
are. No other command touches a screen. -/
theorem size_screens_answer :
    (inspection.answer session command).screens.size = inspection.screens.size := by
  obtain ⟨_, report?, screens, target?, session?⟩ := inspection
  cases command with
  | requestScreenDraw =>
      cases target? with
      | none => rfl
      | some index => simp only [answer, draw, modifyScreen, Array.size_modify]
  | requestCpuDebugInfo | setKey | setPause | loadRom => rfl

/-- Applying a request leaves the report of the session at this moment, and applying any other
command leaves the report that was there. -/
theorem report?_answer_or :
    (inspection.answer session command).report? =
      (LogEntry.event session (.applied command)).report?.or inspection.report? := by
  obtain ⟨_, report?, screens, target?, session?⟩ := inspection
  cases command with
  | requestScreenDraw => cases target? <;> rfl
  | requestCpuDebugInfo | setKey | setPause | loadRom => rfl

end Inspection

/-- What a part of the entries of a log says, by the last entry that says something. -/
def latest? {α : Type} (tells? : LogEntry → Option α) (log : List LogEntry) : Option α :=
  log.reverse.findSome? tells?

section Latest

variable {α : Type} {tells? : LogEntry → Option α}

/-- What the later entries tell goes before what the earlier ones do. -/
theorem latest?_append (first second : List LogEntry) :
    latest? tells? (first ++ second) = (latest? tells? second).or (latest? tells? first) := by
  rw [latest?, List.reverse_append, List.findSome?_append]
  rfl

/-- Entries none of which tells anything tell nothing together. -/
theorem latest?_of_silent {log : List LogEntry} (silent : ∀ entry ∈ log, tells? entry = none) :
    latest? tells? log = none :=
  List.findSome?_eq_none_iff.mpr fun entry member => silent entry (List.mem_reverse.mp member)

/-- The last entry is asked first. -/
theorem latest?_concat (tells? : LogEntry → Option α) (log : List LogEntry) (entry : LogEntry) :
    latest? tells? (log ++ [entry]) = (tells? entry).or (latest? tells? log) := by
  have single : latest? tells? [entry] = tells? entry := by
    simp only [latest?, List.reverse_singleton, List.findSome?_singleton]
  rw [latest?_append, single]

/-- Entries of the log that say nothing about a matter leave the last word on it to the entries
before them. -/
theorem latest?_append_of_silent {log more : List LogEntry}
    (silent : ∀ entry ∈ more, tells? entry = none) :
    latest? tells? (log ++ more) = latest? tells? log := by
  rw [latest?_append, latest?_of_silent silent, Option.none_or]

end Latest

section Returns

variable {event : Event} (returns : event.isReturn = true)

include returns

/-- That a call returns does nothing to the session. -/
theorem Session.afterEvent_of_return (session : Session) : session.afterEvent event = session := by
  cases event with
  | processed | iterated => rfl
  | sent | applied | ticked => cases returns

/-- That a call returns leaves no report. -/
theorem LogEntry.report?_of_return (session : Session) :
    (LogEntry.event session event).report? = none := by
  cases event with
  | processed | iterated => rfl
  | sent | applied | ticked => cases returns

/-- That a call returns sends no command. -/
theorem Event.sent?_of_return : event.sent? = none := by
  cases event with
  | sent => cases returns
  | processed | iterated | applied | ticked => rfl

/-- That a call returns applies no command. -/
theorem Event.applied?_of_return : event.applied? = none := by
  cases event with
  | applied => cases returns
  | processed | iterated | sent | ticked => rfl

end Returns

namespace Exchange.Effect

variable {exchange after : Exchange} {events : List Event}

/-- The session after a turn is what the events of the turn have made of it, one after the other.
Refusals and changes of the screen are no events of the session. -/
theorem session (effect : exchange.Effect events after) :
    after.session = events.foldl Session.afterEvent exchange.session := by
  cases effect with
  | moves activity events returns =>
      show exchange.session = _
      induction events with
      | nil => rfl
      | cons event rest ih =>
          rw [List.forall_mem_cons] at returns
          rw [List.foldl_cons, Session.afterEvent_of_return returns.1, ← ih returns.2]
  | sends | applies | ticks => rfl

/-- No turn changes which screen is drawn into. -/
theorem target? (effect : exchange.Effect events after) :
    after.shared.target? = exchange.shared.target? := by
  cases effect with
  | moves | sends | ticks => rfl
  | applies pending => exact Inspection.target?_answer _ _ _

/-- No turn adds a screen or takes one away. -/
theorem size_screens (effect : exchange.Effect events after) :
    after.shared.screens.size = exchange.shared.screens.size := by
  cases effect with
  | moves | sends | ticks => rfl
  | applies pending => exact Inspection.size_screens_answer _ _ _

/-- The report after a turn is the last one that an event of the turn has left, or the one from
before if none has left any. -/
theorem report? (effect : exchange.Effect events after) :
    after.shared.report? =
      (latest? LogEntry.report? (events.map (.event exchange.session))).or
        exchange.shared.report? := by
  cases effect with
  | moves activity events returns =>
      rw [latest?_of_silent (List.forall_mem_map.mpr fun event member =>
        LogEntry.report?_of_return (returns event member) exchange.session)]
      rfl
  | sends | ticks => rfl
  | @applies _ _ command _ pending =>
      have single : latest? LogEntry.report? ([.applied command].map (.event exchange.session)) =
          (LogEntry.event exchange.session (.applied command)).report? := by
        rw [latest?, List.map_singleton, List.reverse_singleton, List.findSome?_singleton]
      rw [single]
      exact Inspection.report?_answer_or _ _ _

/-- A turn applies a command only if it is the oldest one in the queue, and then what the two sides
share changes exactly as answering this command says. -/
theorem of_applied (effect : exchange.Effect events after) {command : Command}
    (applied : .applied command ∈ events) :
    ∃ rest, exchange.shared.queue = command :: rest ∧
      after.shared =
        ({ exchange.shared with queue := rest }).answer exchange.session command := by
  cases effect with
  | moves activity _ returns => cases returns _ applied
  | sends | ticks => cases List.mem_singleton.mp applied
  | applies pending =>
      cases List.mem_singleton.mp applied
      exact ⟨_, pending, rfl⟩

/-- The commands that were applied and those that wait are those that were sent, in order. A turn
keeps this whatever it is. -/
theorem order (effect : exchange.Effect events after)
    (order : appliedIn exchange.history ++ exchange.shared.queue = sentIn exchange.history) :
    appliedIn after.history ++ after.shared.queue = sentIn after.history := by
  cases effect with
  | moves activity events returns =>
      have sent : events.filterMap Event.sent? = [] := List.filterMap_eq_nil_iff.mpr
        fun event member => Event.sent?_of_return (returns event member)
      have applied : events.filterMap Event.applied? = [] := List.filterMap_eq_nil_iff.mpr
        fun event member => Event.applied?_of_return (returns event member)
      show appliedIn (exchange.history ++ events) ++ _ = sentIn (exchange.history ++ events)
      rw [appliedIn, sentIn, List.filterMap_append, List.filterMap_append, sent, applied,
        List.append_nil, List.append_nil]
      exact order
  | sends command => exact order_concat order rfl
  | applies pending =>
      refine order_concat order ?_
      rw [applyNext, queue_answer, pending]
      exact (List.append_nil _).symm
  | ticks => exact order_concat order (List.append_nil _).symm

end Exchange.Effect

/-- A session after an entry of a log. -/
def Session.afterEntry (session : Session) : LogEntry → Session
  | .event _ event => session.afterEvent event
  | .changed f => { session with console := f session.console }
  | .accepted _ | .refused _ | .ended => session

/-- A session after what a log says was done to it. -/
def Session.afterLog (session : Session) (log : List LogEntry) : Session :=
  log.foldl afterEntry session

/-- A log can be followed in two parts. -/
theorem Session.afterLog_append (session : Session) (first second : List LogEntry) :
    session.afterLog (first ++ second) = (session.afterLog first).afterLog second :=
  List.foldl_append

/-- An inspection at any moment: the session may be inside a call, or gone. -/
structure Dialogue where
  exchange : Exchange
  /-- There is no session any more. -/
  ended : Bool
  /-- What was done, the latest last. -/
  log : List LogEntry

namespace Dialogue

def start (console : Console) (config : SessionConfig) : Dialogue :=
  ⟨Exchange.start console config #[] none, false, []⟩

/-- What there is apart from calls. -/
def inspection (dialogue : Dialogue) : Inspection :=
  { dialogue.exchange.shared with
    session? := if dialogue.ended then none else some dialogue.exchange.session }

def record (dialogue : Dialogue) (entry : LogEntry) : Dialogue :=
  { dialogue with log := dialogue.log ++ [entry] }

def mapShared (dialogue : Dialogue) (f : Inspection → Inspection) : Dialogue :=
  { dialogue with exchange := { dialogue.exchange with shared := f dialogue.exchange.shared } }

def turn (dialogue : Dialogue) (next : Turn) : Dialogue :=
  { dialogue with
    exchange := dialogue.exchange.turn next
    log := dialogue.log ++ (dialogue.exchange.added next).map (.event dialogue.exchange.session) }

/-- Nothing can be asked of a session that is gone. -/
def ask (dialogue : Dialogue) (next : Turn) : Dialogue :=
  if dialogue.ended then dialogue else dialogue.turn next

/-- There is a session, and it is between two calls. -/
def between (dialogue : Dialogue) : Bool :=
  !dialogue.ended && dialogue.exchange.activity == .idle

def modifyConsole (dialogue : Dialogue) (f : Console → Console) : Dialogue :=
  let session := dialogue.exchange.session
  { dialogue.record (.changed f) with
    exchange :=
      { dialogue.exchange with session := { session with console := f session.console } } }

def finish (dialogue : Dialogue) : Dialogue :=
  { (dialogue.mapShared Inspection.finish).record .ended with ended := true }

def act (dialogue : Dialogue) : Act → Dialogue
  | .send command =>
    match dialogue.inspection.send command with
    | .ok _ => dialogue.turn (.send command)
    | .error error => dialogue.record (.refused error)
  | .setScreen index =>
    match dialogue.inspection.setScreen index with
    | .ok after =>
      (dialogue.mapShared ({ · with target? := after.target? })).record (.accepted index)
    | .error error => dialogue.record (.refused error)
  | .addScreen screen => dialogue.mapShared (·.addScreen screen)
  | .modifyScreen index f => dialogue.mapShared (·.modifyScreen index f)
  | .process => dialogue.ask .process
  | .iterate => dialogue.ask .iterate
  | .proceed => dialogue.ask .proceed
  | .modifyConsole f => if dialogue.between then dialogue.modifyConsole f else dialogue
  | .finish => if dialogue.between then dialogue.finish else dialogue

def run (dialogue : Dialogue) (acts : List Act) : Dialogue := acts.foldl act dialogue

/-- What an act adds to the log. -/
def added (dialogue : Dialogue) (act : Act) : List LogEntry :=
  (dialogue.act act).log.drop dialogue.log.length

/-- The first act is done first. -/
theorem run_cons (dialogue : Dialogue) (act : Act) (rest : List Act) :
    dialogue.run (act :: rest) = (dialogue.act act).run rest := rfl

/-- What comes of whatever is done. -/
inductive Done (dialogue : Dialogue) : Dialogue → Prop
  | nothing : Done dialogue dialogue
  | turned (going : dialogue.ended = false) (next : Turn) : Done dialogue (dialogue.turn next)
  | refused (error : ProtocolError) : Done dialogue (dialogue.record (.refused error))
  | accepted {index : Nat} (whole : (dialogue.inspection.screen index).size = frameBytes) :
      Done dialogue
        ((dialogue.mapShared ({ · with target? := some index })).record (.accepted index))
  /-- The screens are changed, and none is taken away. -/
  | screens (screens : Array (Array Byte))
      (more : dialogue.exchange.shared.screens.size ≤ screens.size) :
      Done dialogue (dialogue.mapShared ({ · with screens }))
  | changed (f : Console → Console) : Done dialogue (dialogue.modifyConsole f)
  | finished : Done dialogue dialogue.finish

/-- In terms of the shared state a command is refused after the end and otherwise joins the queue,
whatever the session is doing at the time. -/
theorem send_inspection (dialogue : Dialogue) (command : Command) :
    dialogue.inspection.send command =
      if dialogue.ended then .error .disconnected
      else .ok (dialogue.turn (.send command)).inspection := by
  cases ended : dialogue.ended <;> simp only [Inspection.send, inspection, turn, ended] <;> rfl

/-- A screen is refused after the end and when it does not hold a frame, and otherwise it is the one
that is drawn into from now on. -/
theorem setScreen_inspection (dialogue : Dialogue) (index : Nat) :
    dialogue.inspection.setScreen index =
      if dialogue.ended then .error .disconnected
      else
        let actual := (dialogue.inspection.screen index).size
        if actual = frameBytes then
          .ok (dialogue.mapShared ({ · with target? := some index })).inspection
        else .error (.framebufferSize frameBytes actual) := by
  cases ended : dialogue.ended <;>
    simp only [Inspection.setScreen, inspection, mapShared, ended] <;> rfl

/-- Sending to a session that has ended is refused. The refusal is noted in the log and has no other
effect, and a session that goes on gets the command. -/
theorem act_send (dialogue : Dialogue) (command : Command) :
    dialogue.act (.send command) =
      if dialogue.ended then dialogue.record (.refused .disconnected)
      else dialogue.turn (.send command) := by
  rw [act, send_inspection]
  cases dialogue.ended <;> rfl

/-- A refused screen is noted in the log and has no other effect, so that draws go where they went
before. -/
theorem act_setScreen (dialogue : Dialogue) (index : Nat) :
    dialogue.act (.setScreen index) =
      if dialogue.ended then dialogue.record (.refused .disconnected)
      else
        let actual := (dialogue.inspection.screen index).size
        if actual = frameBytes then
          (dialogue.mapShared ({ · with target? := some index })).record (.accepted index)
        else dialogue.record (.refused (.framebufferSize frameBytes actual)) := by
  rw [act, setScreen_inspection]
  cases dialogue.ended with
  | true => rfl
  | false =>
      by_cases whole : (dialogue.inspection.screen index).size = frameBytes
      · simp only [whole, ↓reduceIte]
        rfl
      · simp only [whole, ↓reduceIte]
        rfl

/-- Asking a session for something is a turn of it, or nothing when it is gone. -/
theorem done_ask (dialogue : Dialogue) (next : Turn) : dialogue.Done (dialogue.ask next) := by
  unfold ask
  split
  · exact .nothing
  · rename_i going
    exact .turned (Bool.eq_false_iff.mpr going) next

/-- Whatever is done, by the inspector, the session or the one who ends it, it comes to one of a few
things. Each act is split by whether the session has ended. -/
theorem done_act (dialogue : Dialogue) (act : Act) : dialogue.Done (dialogue.act act) := by
  cases act with
  | send command =>
      rw [act_send]
      split
      · exact .refused _
      · rename_i going
        exact .turned (Bool.eq_false_iff.mpr going) _
  | setScreen index =>
      rw [act_setScreen]
      split
      · exact .refused _
      · dsimp only
        split
        · rename_i whole
          exact .accepted whole
        · exact .refused _
  | addScreen screen =>
      refine .screens (dialogue.exchange.shared.screens.push screen) ?_
      rw [Array.size_push]
      exact Nat.le_succ _
  | modifyScreen index f => exact .screens _ (Nat.le_of_eq Array.size_modify.symm)
  | process => exact dialogue.done_ask .process
  | iterate => exact dialogue.done_ask .iterate
  | proceed => exact dialogue.done_ask .proceed
  | modifyConsole f =>
      show dialogue.Done (if dialogue.between then dialogue.modifyConsole f else dialogue)
      split
      · exact .changed f
      · exact .nothing
  | finish =>
      show dialogue.Done (if dialogue.between then dialogue.finish else dialogue)
      split
      · exact .finished
      · exact .nothing

/-! ## What is kept -/

/-- What the log says of a dialogue, which began with a session. -/
structure Kept (begun : Session) (dialogue : Dialogue) : Prop where
  session : dialogue.exchange.session = begun.afterLog dialogue.log
  target : dialogue.exchange.shared.target? = latest? LogEntry.accepted? dialogue.log
  inRange : ∀ index, dialogue.exchange.shared.target? = some index →
    index < dialogue.exchange.shared.screens.size
  report : dialogue.exchange.shared.report? = latest? LogEntry.report? dialogue.log
  history : dialogue.log.filterMap LogEntry.event? = dialogue.exchange.history
  order : dialogue.ended = false →
    appliedIn dialogue.exchange.history ++ dialogue.exchange.shared.queue =
      sentIn dialogue.exchange.history

/-- A new inspection has no history, no report and no screen. -/
theorem kept_start (console : Console) (config : SessionConfig) :
    Kept ⟨console, config, false⟩ (start console config) :=
  ⟨rfl, rfl, nofun, rfl, rfl, fun _ => rfl⟩

/-- A screen that holds a frame is one of the screens there are, since past the end of their list
there are only empty ones. -/
theorem index_lt_of_whole (dialogue : Dialogue) {index : Nat}
    (whole : (dialogue.inspection.screen index).size = frameBytes) :
    index < dialogue.exchange.shared.screens.size := by
  by_contra outside
  have missing : dialogue.exchange.shared.screens[index]? = none :=
    Array.getElem?_eq_none (Nat.le_of_not_lt outside)
  rw [Inspection.screen, inspection, missing] at whole
  exact absurd whole (by decide)

/-- A turn of a session that goes on keeps what the log says: its events are added to the log, and
session, report and screens are what the longer log tells. -/
theorem Kept.turned {begun : Session} {dialogue : Dialogue} (kept : Kept begun dialogue)
    (going : dialogue.ended = false) (next : Turn) : Kept begun (dialogue.turn next) := by
  have effect := dialogue.exchange.effect_turn next
  refine ⟨?_, ?_, ?_, ?_, ?_, fun _ => effect.order (kept.order going)⟩
  · rw [turn, effect.session, Session.afterLog_append, ← kept.session, Session.afterLog,
      List.foldl_map]
    rfl
  · have silent : ∀ entry ∈ (dialogue.exchange.added next).map
        (LogEntry.event dialogue.exchange.session), entry.accepted? = none :=
      List.forall_mem_map.mpr fun _ _ => rfl
    rw [turn, effect.target?, kept.target, latest?_append_of_silent silent]
  · rw [turn, effect.target?, effect.size_screens]
    exact kept.inRange
  · rw [turn, effect.report?, kept.report, latest?_append]
  · rw [turn, effect.history, List.filterMap_append, kept.history, List.filterMap_map]
    exact congrArg _ List.filterMap_some

/-- Whatever is done keeps what the log says of the session, the report and the screens. One case
for each thing that can be done. -/
theorem Kept.done {begun : Session} {dialogue after : Dialogue} (kept : Kept begun dialogue)
    (done : dialogue.Done after) : Kept begun after := by
  have replayed (entry : LogEntry) : dialogue.exchange.session.afterEntry entry =
      begun.afterLog (dialogue.log ++ [entry]) := by
    rw [kept.session]
    exact (List.foldl_concat _ _ _ _).symm
  have target (entry : LogEntry) : entry.accepted?.or dialogue.exchange.shared.target? =
      latest? LogEntry.accepted? (dialogue.log ++ [entry]) := by
    rw [kept.target, latest?_concat]
  have report (entry : LogEntry) : entry.report?.or dialogue.exchange.shared.report? =
      latest? LogEntry.report? (dialogue.log ++ [entry]) := by
    rw [kept.report, latest?_concat]
  have history {entry : LogEntry} (noEvent : entry.event? = none) :
      (dialogue.log ++ [entry]).filterMap LogEntry.event? = dialogue.exchange.history := by
    rw [List.filterMap_append, kept.history, List.filterMap_cons_none noEvent]
    exact List.append_nil _
  cases done with
  | nothing => exact kept
  | turned going next => exact kept.turned going next
  | refused error =>
      exact ⟨replayed (.refused error), target (.refused error), kept.inRange,
        report (.refused error), history rfl, kept.order⟩
  | @accepted index whole =>
      refine ⟨replayed (.accepted index), target (.accepted index), ?_,
        report (.accepted index), history rfl, kept.order⟩
      rintro _ ⟨rfl⟩
      exact dialogue.index_lt_of_whole whole
  | screens screens more =>
      exact ⟨kept.session, kept.target, fun index target =>
        Nat.lt_of_lt_of_le (kept.inRange index target) more, kept.report, kept.history, kept.order⟩
  | changed f =>
      exact ⟨replayed (.changed f), target (.changed f), kept.inRange, report (.changed f),
        history rfl, kept.order⟩
  | finished =>
      exact ⟨replayed .ended, target .ended, kept.inRange, report .ended, history rfl, nofun⟩

/-- Whatever is done, the log says what there is. -/
theorem kept_run (console : Console) (config : SessionConfig) (acts : List Act) :
    Kept ⟨console, config, false⟩ ((start console config).run acts) := by
  induction acts using List.reverseRecOn with
  | nil => exact kept_start console config
  | append_singleton acts act ih =>
      rw [run, List.foldl_concat]
      exact ih.done (done_act _ act)

/-- Without a session nothing but the log and the choice of a screen can change. The session stays
ended and the last report stays. -/
theorem done_of_ended {dialogue after : Dialogue} (ended : dialogue.ended = true)
    (done : dialogue.Done after) :
    after.ended = true ∧ after.exchange.shared.report? = dialogue.exchange.shared.report? := by
  cases done with
  | turned going => exact absurd ended (Bool.eq_false_iff.mp going)
  | nothing | refused | accepted | screens | changed => exact ⟨ended, rfl⟩
  | finished => exact ⟨rfl, rfl⟩

/-- After the end nothing brings the session back, and the last report stays. By induction on what
is done. -/
theorem run_of_ended {dialogue : Dialogue} (ended : dialogue.ended = true) (acts : List Act) :
    (dialogue.run acts).ended = true ∧
      (dialogue.run acts).inspection.report? = dialogue.inspection.report? := by
  induction acts generalizing dialogue with
  | nil => exact ⟨ended, rfl⟩
  | cons act rest ih =>
      obtain ⟨stays, report⟩ := done_of_ended ended (dialogue.done_act act)
      obtain ⟨endedLast, reportLast⟩ := ih stays
      exact ⟨endedLast, reportLast.trans report⟩

/-! ## Draws -/

/-- The screen that was chosen has a frame, and the others are as they were. If none was chosen, all
of them are. -/
def Drawn (before after : Array (Array Byte)) (target? : Option Nat)
    (frame : Vector Byte frameBytes) : Prop :=
  match target? with
  | some index => after[index]? = some frame.toArray ∧
      ∀ other, other ≠ index → after[other]? = before[other]?
  | none => after = before

/-- A draw changes no screen but the chosen one, and leaves it with the frame, whatever was in it
before. -/
theorem drawn_draw (inspection : Inspection) (console : Console)
    (inRange : ∀ index, inspection.target? = some index → index < inspection.screens.size) :
    Drawn inspection.screens (inspection.draw console).screens inspection.target?
      console.video.frame := by
  unfold Inspection.draw Inspection.modifyScreen
  cases target : inspection.target? with
  | none => rfl
  | some index =>
      refine ⟨?_, fun other different => ?_⟩
      · rw [Array.getElem?_modify, if_pos rfl, Array.getElem?_eq_getElem (inRange index target)]
        rfl
      · rw [Array.getElem?_modify, if_neg (Ne.symm different)]

/-- That a command was applied is logged by a step of a session that goes on, and by nothing else.
The command was the oldest one in the queue. -/
theorem Done.of_applied {dialogue after : Dialogue} (done : dialogue.Done after)
    {session : Session} {command : Command}
    (applied : .event session (.applied command) ∈ after.log.drop dialogue.log.length) :
    (dialogue.ended = false ∧ dialogue.exchange.session = session) ∧
      ∃ rest, dialogue.exchange.shared.queue = command :: rest ∧
        after.exchange.shared =
          ({ dialogue.exchange.shared with queue := rest }).answer session command := by
  have member {more : List LogEntry} (grown : after.log = dialogue.log ++ more) :
      .event session (.applied command) ∈ more := by
    rwa [grown, List.drop_left] at applied
  cases done with
  | nothing => cases member (List.append_nil _).symm
  | turned going next =>
      have effect := dialogue.exchange.effect_turn next
      obtain ⟨event, present, same⟩ := List.mem_map.mp (member rfl)
      obtain ⟨rfl, rfl⟩ := LogEntry.event.inj same
      exact ⟨⟨going, rfl⟩, effect.of_applied present⟩
  | refused error => cases List.mem_singleton.mp (member rfl)
  | accepted whole => cases List.mem_singleton.mp (member rfl)
  | screens screens more => cases member (List.append_nil _).symm
  | changed f => cases List.mem_singleton.mp (member rfl)
  | finished => cases List.mem_singleton.mp (member rfl)

/-- A refusal leaves everything as it was but the log, and a draw leaves a whole frame of the
machine as it is at the time in the screen that was chosen last. -/
theorem refusals_keep_and_draws_are_frames (console : Console) (config : SessionConfig)
    (acts : List Act) :
    let begun : Session := ⟨console, config, false⟩
    let dialogue := (start console config).run acts
    let inspection := dialogue.inspection
    let sent := sentIn (dialogue.log.filterMap LogEntry.event?)
    let applied := appliedIn (dialogue.log.filterMap LogEntry.event?)
    -- Without a session every command and every screen is refused, and the report stays.
    (dialogue.ended = true →
      (∀ command, inspection.send command = .error .disconnected ∧
        dialogue.act (.send command) = dialogue.record (.refused .disconnected)) ∧
      (∀ index, inspection.setScreen index = .error .disconnected ∧
        dialogue.act (.setScreen index) = dialogue.record (.refused .disconnected)) ∧
      ∀ later, (dialogue.run later).inspection.report? = inspection.report?) ∧
    inspection.report? = latest? LogEntry.report? dialogue.log ∧
    -- With one, a screen of another size is refused, and the screen to draw into stays.
    (dialogue.ended = false → ∀ index actual, (inspection.screen index).size = actual →
      actual ≠ 153600 →
        inspection.setScreen index = .error (.framebufferSize 153600 actual) ∧
          dialogue.act (.setScreen index) =
            dialogue.record (.refused (.framebufferSize 153600 actual))) ∧
    inspection.target? = latest? LogEntry.accepted? dialogue.log ∧
    -- A draw leaves the frame of the console as the acts before it have left it.
    ∀ act session, .event session (.applied .requestScreenDraw) ∈ dialogue.added act →
      session = begun.afterLog dialogue.log ∧
        (∃ rest, applied ++ .requestScreenDraw :: rest = sent) ∧
        Drawn inspection.screens (dialogue.act act).inspection.screens
          (latest? LogEntry.accepted? dialogue.log) session.console.video.frame := by
  intro begun dialogue inspection sent applied
  have kept : Kept begun dialogue := kept_run console config acts
  refine ⟨fun ended => ⟨fun command => ?_, fun index => ?_, fun later => ?_⟩, kept.report,
    ?_, kept.target, fun act session drew => ?_⟩
  · rw [act_send, send_inspection, if_pos ended, if_pos ended]
    exact ⟨rfl, rfl⟩
  · rw [act_setScreen, setScreen_inspection, if_pos ended, if_pos ended]
    exact ⟨rfl, rfl⟩
  · exact (run_of_ended ended later).2
  · rintro going index actual rfl wrong
    rw [act_setScreen, setScreen_inspection, if_neg (Bool.eq_false_iff.mp going),
      if_neg (Bool.eq_false_iff.mp going)]
    exact ⟨if_neg wrong, if_neg wrong⟩
  · obtain ⟨⟨going, rfl⟩, rest, pending, shared⟩ := (dialogue.done_act act).of_applied drew
    have screens := congrArg Inspection.screens shared
    refine ⟨kept.session, ⟨rest, ?_⟩, ?_⟩
    · have order := kept.order going
      rwa [pending, ← kept.history] at order
    · show Drawn _ (dialogue.act act).exchange.shared.screens _ _
      rw [screens, ← kept.target]
      exact drawn_draw { dialogue.exchange.shared with queue := rest } _ kept.inRange

/-- A draw into a screen that its owner has emptied since it was accepted, after another one was
refused. -/
theorem refusals_keep_and_draws_are_frames_emptied :
    let console := Console.powerOn .default
    let later : List Act := [.send .requestScreenDraw, .modifyScreen 0 fun _ => #[], .process]
    let acts : List Act :=
      .addScreen (Array.replicate 153600 0) :: .addScreen #[1, 2, 3] ::
        .setScreen 0 :: .setScreen 1 :: later
    let dialogue := (start console .default).run acts
    let drawn := dialogue.act .proceed
    dialogue.inspection.screens = #[#[], #[1, 2, 3]] ∧
      drawn.inspection.screens[0]? = some console.video.frame.toArray ∧
      drawn.inspection.screens[1]? = some #[1, 2, 3] := by
  have size : (Array.replicate 153600 0 : Array Byte).size = frameBytes := Array.size_replicate
  revert size
  generalize (Array.replicate 153600 0 : Array Byte) = blank
  intro whole console later acts dialogue drawn
  let first := (start console .default).run [.addScreen blank, .addScreen #[1, 2, 3]]
  let chosen := (first.mapShared ({ · with target? := some 0 })).record (.accepted 0)
  have accepted : first.act (.setScreen 0) = chosen := by
    rw [act_setScreen]
    exact (if_neg Bool.false_ne_true).trans (if_pos whole)
  have small : (chosen.inspection.screen 1).size ≠ frameBytes := by
    show 3 ≠ frameBytes
    decide
  let refusal : LogEntry := .refused (.framebufferSize frameBytes 3)
  have refused : chosen.act (.setScreen 1) = chosen.record refusal := by
    rw [act_setScreen]
    exact (if_neg Bool.false_ne_true).trans (if_neg small)
  have reached : dialogue = (chosen.record refusal).run later := by
    simp only [dialogue, acts, run_cons]
    rw [← refused, ← accepted]
    rfl
  have screens : dialogue.inspection.screens = #[#[], #[1, 2, 3]] := by
    rw [reached]
    rfl
  have target : latest? LogEntry.accepted? dialogue.log = some 0 := by
    rw [reached]
    rfl
  have drew : dialogue.added .proceed =
      [.event ⟨console, .default, false⟩ (.applied .requestScreenDraw)] := by
    rw [reached]
    rfl
  obtain ⟨-, -, -, -, draws⟩ := refusals_keep_and_draws_are_frames console .default acts
  obtain ⟨-, -, frame⟩ := draws .proceed _ (drew ▸ List.mem_singleton_self _)
  rw [target] at frame
  refine ⟨screens, frame.1, (frame.2 1 (by decide)).trans ?_⟩
  rw [screens]
  rfl

end Dialogue

end Handheld
