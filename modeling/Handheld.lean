import Handheld.Arm.Decode
import Handheld.Arm.Execute
import Handheld.Arm.Instruction
import Handheld.Arm.Text
import Handheld.Assembly.Hex
import Handheld.Assembly.Operand
import Handheld.Assembly.Window
import Handheld.Console
import Handheld.Cpu.Condition
import Handheld.Cpu.Cycles
import Handheld.Cpu.Exception
import Handheld.Cpu.Flags
import Handheld.Cpu.InstructionSet
import Handheld.Cpu.Machine
import Handheld.Cpu.Mode
import Handheld.Cpu.RegisterFile
import Handheld.Cpu.RunState
import Handheld.Cpu.Shifter
import Handheld.Cpu.Status
import Handheld.Cpu.Step
import Handheld.Debug.Breakpoints
import Handheld.Debug.Debugger
import Handheld.Debug.History
import Handheld.Inspection.Command
import Handheld.Inspection.Session
import Handheld.Memory.BootRom
import Handheld.Memory.Bus
import Handheld.Memory.Io
import Handheld.Memory.Keypad
import Handheld.Memory.Region
import Handheld.Proofs.Alignment
import Handheld.Proofs.Arm.BlockTransfer
import Handheld.Proofs.Arm.DataProcessing
import Handheld.Proofs.Arm.WellFormed
import Handheld.Proofs.Console.Interrupt
import Handheld.Proofs.Console.InterruptRoutine
import Handheld.Proofs.Console.Operation
import Handheld.Proofs.Console.Processor
import Handheld.Proofs.Console.Tick
import Handheld.Proofs.Cpu.Architecture
import Handheld.Proofs.Cpu.Banking
import Handheld.Proofs.Cpu.Frame
import Handheld.Proofs.Cpu.Registers
import Handheld.Proofs.Cpu.StatusBits
import Handheld.Proofs.Cpu.Step
import Handheld.Proofs.Cpu.WellFormed
import Handheld.Proofs.Memory.BootProgram
import Handheld.Proofs.Memory.Region
import Handheld.Proofs.Memory.WorkRam
import Handheld.Proofs.Memory.Writes
import Handheld.Proofs.Thumb.ArmAgreement
import Handheld.Proofs.Thumb.ArmForm
import Handheld.Proofs.Thumb.ArmTransfer
import Handheld.Proofs.Thumb.LowRegisters
import Handheld.Proofs.Thumb.WellFormed
import Handheld.Proofs.Video.Clock
import Handheld.TestCartridge
import Handheld.Thumb.Decode
import Handheld.Thumb.Execute
import Handheld.Thumb.Instruction
import Handheld.Thumb.Text
import Handheld.Video.Background
import Handheld.Video.Clock
import Handheld.Video.Color
import Handheld.Video.Frame
import Handheld.Video.Picture
import Handheld.Video.Sample
import Handheld.Word
import Handheld.Proofs.Memory.Peripherals
import Handheld.Proofs.Video.Registers
import Handheld.Proofs.Console.HardwareState
import Handheld.Proofs.Cpu.ExceptionReturn
import Handheld.Proofs.Cpu.Changes
import Handheld.Proofs.Cpu.Confinement
import Handheld.Proofs.Inspection.Exchange
import Handheld.Proofs.Inspection.Protocol
import Handheld.Proofs.Video.Position
import Handheld.Proofs.Memory.Cell
import Handheld.Proofs.Console.Time
import Handheld.Proofs.Console.Instrumentation
import Handheld.Proofs.Memory.ReadAfterWrite
import Handheld.Proofs.Video.Layers
import Handheld.Proofs.Video.Picture
import Handheld.Proofs.Video.LayerViews
import Handheld.Proofs.Inspection.Batching
import Handheld.Proofs.Memory.Stores
import Handheld.Proofs.Memory.Acknowledge
import Handheld.Proofs.Console.Requests
import Handheld.Proofs.Memory.Unreadable
import Handheld.Proofs.Cpu.Reads
import Handheld.Proofs.Console.Unobservable
import Handheld.Proofs.Debug.Breakpoints
import Handheld.Proofs.Debug.History
import Handheld.Proofs.Console.Debugging
import Handheld.Proofs.Memory.Backing
import Handheld.Proofs.Console.ReadOnlyMemory
import Handheld.Proofs.Console.Boot
import Handheld.Proofs.Arm.BlockSemantics
import Handheld.Proofs.Cpu.Stack
import Handheld.Proofs.Cpu.ExceptionFrame
import Handheld.Proofs.Video.Advance
import Handheld.Proofs.Video.Events
import Handheld.Proofs.Console.Idle
import Handheld.Proofs.Cpu.Adder
import Handheld.Proofs.Cpu.Arithmetic
import Handheld.Proofs.Cpu.Shifter
import Handheld.Proofs.Cpu.CarryChain
import Handheld.Proofs.Cpu.Outcome
import Handheld.Proofs.Arm.Encoding
import Handheld.Proofs.Arm.Decode
import Handheld.Proofs.Arm.StatusTransfer
import Handheld.Proofs.Cpu.Offsets
import Handheld.Proofs.Memory.Loads
import Handheld.Proofs.Cpu.Loads
import Handheld.Proofs.Assembly.Hex
import Handheld.Proofs.Assembly.Disassembly
import Handheld.Proofs.Memory.KeyEvents
import Handheld.Proofs.Cpu.Call
import Handheld.Proofs.Video.Dependence
import Handheld.Proofs.Inspection.Screens
import Handheld.Proofs.Video.TextScreens
import Handheld.Proofs.CheckedArithmetic
import Handheld.Proofs.Cpu.ShiftCounts
import Handheld.Proofs.Arm.LongMultiply
import Handheld.Proofs.Video.Turns
import Handheld.Proofs.Video.FixedPoint
import Handheld.Proofs.Video.Canvas
import Handheld.Proofs.Console.Ranges
