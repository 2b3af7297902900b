import Handheld.Console

/-!
# Commands and reports of an inspection

What an inspector can ask of a running console, the report it gets on the processor, and what can
be wrong with a request.
-/

namespace Handheld

/-- A request of an inspector. -/
inductive Command where
  /-- Draw the current frame into the supplied screen. -/
  | requestScreenDraw
  /-- Leave a report on the processor. -/
  | requestCpuDebugInfo
  /-- Press or release a key. -/
  | setKey (key : Key) (pressed : Bool)
  /-- Pause or go on. Going on also ends a stop of the debugger. -/
  | setPause (paused : Bool)
  /-- Start again with another image, past the boot ROM. -/
  | loadRom (image : Array Byte)
  deriving DecidableEq

/-- A report on the processor. -/
structure CpuDebugInfo where
  pc : Word
  executingPc : Word
  lastPc : Word
  thumb : Bool
  stopped : Bool
  paused : Bool
  keyInput : Half
  cpu : Console.CpuSnapshot
  deriving DecidableEq

/-- The report on a console that is paused or not. -/
def CpuDebugInfo.of (console : Console) (paused : Bool) : CpuDebugInfo where
  pc := console.regs.pc
  executingPc := console.debugger.executingPc
  lastPc := console.debugger.lastPc
  thumb := console.regs.thumb
  stopped := console.isStopped
  paused
  keyInput := console.io.keyInput
  cpu := console.inspectCpu

/-- Why a request is refused. -/
inductive ProtocolError where
  /-- There is no session any more. -/
  | disconnected
  /-- A screen of the wrong size was supplied. -/
  | framebufferSize (expected actual : Nat)
  deriving DecidableEq, Repr

/-- The refusal in words. -/
def ProtocolError.message : ProtocolError → String
  | disconnected => "emulation session is gone"
  | framebufferSize expected actual =>
    "framebuffer holds " ++ toString actual ++ " bytes, expected " ++ toString expected

end Handheld
