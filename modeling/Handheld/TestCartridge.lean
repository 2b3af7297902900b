import Handheld.Word

/-!
# The test cartridge

A small program that uses both instruction sets, memory, video memory, a call and a software
interrupt. It paints sixteen pixels, sums the numbers up to ten in Thumb state, multiplies the sum
by seven in a subroutine, stores and reloads the results, and settles in a loop.
-/

namespace Handheld.TestCartridge

/-- The address of the final loop. -/
def idlePc : Word := 0x08000070

/-- Instructions from the entry to the final loop, those of the boot ROM included. -/
def settleTicks : Nat := 105

/-- The program in words. Two Thumb instructions share a word. -/
def program : List Word :=
  [ -- 0x00 mov r0, 0x04000000
    0xE3A00301,
    -- 0x04 mov r1, 0x400
    0xE3A01B01,
    -- 0x08 add r1, r1, 3
    0xE2811003,
    -- 0x0C strh r1, [r0]
    0xE1C010B0,
    -- 0x10 mov r2, 0x06000000
    0xE3A02406,
    -- 0x14 mov r3, 0x1F
    0xE3A0301F,
    -- 0x18 mov r4, 16
    0xE3A04010,
    -- 0x1C strh r3, [r2], 2
    0xE0C230B2,
    -- 0x20 subs r4, r4, 1
    0xE2544001,
    -- 0x24 bne 0x1C
    0x1AFFFFFC,
    -- 0x28 add r5, pc, 1
    0xE28F5001,
    -- 0x2C bx r5
    0xE12FFF15,
    -- 0x30 movs r0, 0; 0x32 movs r1, 10
    0x210A2000,
    -- 0x34 adds r0, r0, r1; 0x36 subs r1, 1
    0x39011840,
    -- 0x38 bne 0x34; 0x3A movs r2, 3
    0x2203D1FC,
    -- 0x3C lsls r2, r2, 24; 0x3E str r0, [r2]
    0x60100612,
    -- 0x40 bl 0x50
    0xF806F000,
    -- 0x44 add r3, pc, 24; 0x46 bx r3
    0x4718A306,
    0,
    0,
    -- 0x50 push r4 lr; 0x52 movs r4, 7
    0x2407B510,
    -- 0x54 muls r0, r4; 0x56 pop r4 pc
    0xBD104360,
    0,
    0,
    -- 0x60 mov r6, 0x03000000
    0xE3A06403,
    -- 0x64 str r0, [r6, 4]
    0xE5860004,
    -- 0x68 ldr r7, [r6]
    0xE5967000,
    -- 0x6C swi 0
    0xEF000000,
    -- 0x70 b .
    0xEAFFFFFE]

/-- The image of the cartridge. -/
def image : Array Byte := (program.flatMap Word.bytes).toArray

end Handheld.TestCartridge
