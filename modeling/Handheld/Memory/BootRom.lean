import Handheld.Word

/-!
# The boot ROM

The program at address zero: the exception vectors, a routine that calls the interrupt handler
whose address is stored at `0x03007FFC`, and the start of the console, which sets up a stack for
interrupts, one for the supervisor and one for programs, and enters the cartridge. The constants
describe the state in which the start leaves the processor.
-/

namespace Handheld.BootRom

/-- Where a cartridge begins. -/
def cartridgeEntry : Word := 0x08000000

/-- The stack pointer of programs. -/
def systemStack : Word := 0x03007F00

/-- The stack pointer of interrupt handlers. -/
def irqStack : Word := 0x03007FA0

/-- The stack pointer of the supervisor. -/
def supervisorStack : Word := 0x03007FE0

/-- The status in which a cartridge begins: System mode, ARM state, no interrupt masked. -/
def finalStatus : Word := 0x1F

/-- Instructions from power-on to the first one of the cartridge. -/
def instructionCount : Nat := 14

/-- The instructions from address zero. -/
def program : List Word :=
  [ -- 0x00 reset: b 0x38
    0xEA00000C,
    -- 0x04 undefined instruction: movs pc, lr
    0xE1B0F00E,
    -- 0x08 software interrupt: movs pc, lr
    0xE1B0F00E,
    -- 0x0C prefetch abort: subs pc, lr, 4
    0xE25EF004,
    -- 0x10 data abort: subs pc, lr, 8
    0xE25EF008,
    -- 0x14 reserved: b .
    0xEAFFFFFE,
    -- 0x18 interrupt: b 0x20
    0xEA000000,
    -- 0x1C fast interrupt: subs pc, lr, 4
    0xE25EF004,
    -- 0x20 stmfd sp!, r0-r3 r12 lr
    0xE92D500F,
    -- 0x24 mov r0, 0x04000000
    0xE3A00301,
    -- 0x28 add lr, pc, 0
    0xE28FE000,
    -- 0x2C ldr pc, [r0, -4]
    0xE510F004,
    -- 0x30 ldmfd sp!, r0-r3 r12 lr
    0xE8BD500F,
    -- 0x34 subs pc, lr, 4
    0xE25EF004,
    -- 0x38 msr cpsr_c, 0xD2
    0xE321F0D2,
    -- 0x3C mov sp, 0x03000000
    0xE3A0D403,
    -- 0x40 add sp, sp, 0x7F00
    0xE28DDC7F,
    -- 0x44 add sp, sp, 0xA0
    0xE28DD0A0,
    -- 0x48 msr cpsr_c, 0xD3
    0xE321F0D3,
    -- 0x4C mov sp, 0x03000000
    0xE3A0D403,
    -- 0x50 add sp, sp, 0x7F00
    0xE28DDC7F,
    -- 0x54 add sp, sp, 0xE0
    0xE28DD0E0,
    -- 0x58 msr cpsr_c, 0x1F
    0xE321F01F,
    -- 0x5C mov sp, 0x03000000
    0xE3A0D403,
    -- 0x60 add sp, sp, 0x7F00
    0xE28DDC7F,
    -- 0x64 mov lr, 0x08000000
    0xE3A0E408,
    -- 0x68 bx lr
    0xE12FFF1E]

/-- The byte at an address of the ROM, which is zero past the program. -/
def byteAt (address : Nat) : Byte :=
  (program[address / 4]?.getD 0).extractLsb' (8 * (address % 4)) 8

/-- The contents of the ROM. -/
def image : Vector Byte 0x4000 := Vector.ofFn fun i => byteAt i.val

end Handheld.BootRom
