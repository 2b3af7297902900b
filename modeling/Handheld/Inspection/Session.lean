import Handheld.Inspection.Command

/-!
# Inspection sessions

A session owns a console and applies the commands of an inspector between runs of ticks, in the
order they were sent and each of them once. The inspector shares three things with it: the queue of
commands, the last report on the processor, and the choice of one of its screens to draw into. The
screens stay with the inspector's side, which may even resize them; a draw replaces the whole
contents of the chosen one.
-/

namespace Handheld

/-- How a session runs. -/
structure SessionConfig where
  /-- The most ticks that one iteration runs. -/
  ticksPerIteration : Nat
  deriving DecidableEq, Repr

/-- The ticks of an iteration unless another number is asked for. -/
def SessionConfig.defaultTicks : Nat := 4096

/-- The configuration unless another is asked for. -/
def SessionConfig.default : SessionConfig := ⟨defaultTicks⟩

/-- The running side of an inspection. -/
structure Session where
  console : Console
  config : SessionConfig
  paused : Bool
  deriving DecidableEq

/-- Both sides of an inspection. -/
structure Inspection where
  /-- The commands that were sent and not yet applied, oldest first. -/
  queue : List Command
  /-- The last report on the processor. -/
  report? : Option CpuDebugInfo
  /-- The screens on the inspector's side. -/
  screens : Array (Array Byte)
  /-- Which of them is drawn into. -/
  target? : Option Nat
  /-- The session, until it ends. -/
  session? : Option Session
  deriving DecidableEq

namespace Session

/-- What a command does to the session itself. -/
def obey (session : Session) (command : Command) : Session :=
  match session with
  | ⟨console, config, paused⟩ =>
    match command with
    | .requestScreenDraw | .requestCpuDebugInfo => ⟨console, config, paused⟩
    | .setKey key pressed => ⟨console.setKey key pressed, config, paused⟩
    | .setPause true => ⟨console, config, true⟩
    | .setPause false => ⟨console.setStopped false, config, false⟩
    | .loadRom image => ⟨(console.reset.loadRom image).skipBios, config, paused⟩

/-- The console after up to `limit` ticks, with the number of ticks it ran. The run ends early when
the debugger holds execution. -/
def runTicks (console : Console) : Nat → Nat → Nat × Console
  | 0, ticks => (ticks, console)
  | limit + 1, ticks =>
    if console.isStopped then (ticks, console) else runTicks console.tick limit (ticks + 1)

/-- Runs the console for one iteration, unless it is paused. -/
def run (session : Session) : Nat × Session :=
  match session with
  | ⟨console, config, paused⟩ =>
    if paused then (0, ⟨console, config, paused⟩)
    else
      let (ticks, console) := runTicks console config.ticksPerIteration 0
      (ticks, ⟨console, config, paused⟩)

end Session

namespace Inspection

/-- An inspection of a console. -/
def start (console : Console) (config : SessionConfig) : Inspection where
  queue := []
  report? := none
  screens := #[]
  target? := none
  session? := some ⟨console, config, false⟩

/-! ## The inspector's side -/

/-- Sends a command. -/
def send (inspection : Inspection) (command : Command) : Except ProtocolError Inspection :=
  if inspection.session?.isSome then
    .ok { inspection with queue := inspection.queue ++ [command] }
  else .error .disconnected

/-- Adds a screen. -/
def addScreen (inspection : Inspection) (screen : Array Byte) : Inspection :=
  { inspection with screens := inspection.screens.push screen }

/-- Changes the contents of a screen. -/
def modifyScreen (inspection : Inspection) (index : Nat) (f : Array Byte → Array Byte) :
    Inspection :=
  { inspection with screens := inspection.screens.modify index f }

/-- The contents of a screen. -/
def screen (inspection : Inspection) (index : Nat) : Array Byte :=
  inspection.screens[index]?.getD #[]

/-- Has frames drawn into a screen, which must hold exactly one. -/
def setScreen (inspection : Inspection) (index : Nat) : Except ProtocolError Inspection :=
  if inspection.session?.isNone then .error .disconnected
  else
    let actual := (inspection.screen index).size
    if actual = frameBytes then .ok { inspection with target? := some index }
    else .error (.framebufferSize frameBytes actual)

/-! ## The session's side -/

/-- Draws the frame of a console into the chosen screen, if one was chosen. -/
def draw (inspection : Inspection) (console : Console) : Inspection :=
  match inspection.target? with
  | some index => inspection.modifyScreen index fun _ => console.video.frame.toArray
  | none => inspection

/-- What a command leaves on the inspector's side. -/
def answer (inspection : Inspection) (session : Session) : Command → Inspection
  | .requestScreenDraw => inspection.draw session.console
  | .requestCpuDebugInfo =>
    { inspection with report? := some (CpuDebugInfo.of session.console session.paused) }
  | .setKey .. | .setPause _ | .loadRom _ => inspection

/-- Applies commands one after the other. -/
def applyAll (inspection : Inspection) (session : Session) : List Command → Inspection
  | [] => { inspection with session? := some session }
  | command :: rest =>
    (inspection.answer session command).applyAll (session.obey command) rest

/-- Applies all commands in the queue. -/
def process (inspection : Inspection) : Nat × Inspection :=
  match inspection with
  | ⟨queue, report?, screens, target?, some session⟩ =>
    (queue.length, (Inspection.mk [] report? screens target? none).applyAll session queue)
  | ended => (0, ended)

/-- Runs a session's ticks. -/
def runSession (inspection : Inspection) : Nat × Inspection :=
  match inspection with
  | ⟨queue, report?, screens, target?, some session⟩ =>
    let (ticks, session) := session.run
    (ticks, ⟨queue, report?, screens, target?, some session⟩)
  | ended => (0, ended)

/-- One iteration: applies the commands in the queue and then runs up to the configured number of
ticks, unless paused or held. Gives the number of ticks. -/
def iterate (inspection : Inspection) : Nat × Inspection := inspection.process.2.runSession

/-- Changes the console of the session between iterations. -/
def modifyConsole (inspection : Inspection) (f : Console → Console) : Inspection :=
  match inspection with
  | ⟨queue, report?, screens, target?, some ⟨console, config, paused⟩⟩ =>
    ⟨queue, report?, screens, target?, some ⟨f console, config, paused⟩⟩
  | ended => ended

/-- Ends the session. Commands that are still queued are lost. -/
def finish (inspection : Inspection) : Inspection :=
  { inspection with queue := [], session? := none }

end Inspection

end Handheld
