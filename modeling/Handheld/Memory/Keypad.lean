import Handheld.Word

/-!
# Keys and interrupt sources

The ten buttons and the fourteen sources of interrupts, each with its bit in the registers that
report it. A key's bit is clear while the key is held.
-/

namespace Handheld

/-- A button. -/
inductive Key where
  | a
  | b
  | select
  | start
  | right
  | left
  | up
  | down
  | r
  | l
  deriving DecidableEq, Repr

namespace Key

/-- Every key, in the order of their bits. -/
def all : List Key := [a, b, select, start, right, left, up, down, r, l]

/-- The bit of a key. -/
def index : Key → Nat
  | a => 0
  | b => 1
  | select => 2
  | start => 3
  | right => 4
  | left => 5
  | up => 6
  | down => 7
  | r => 8
  | l => 9

/-- The mask of a key's bit. -/
def mask (key : Key) : Half := 1 <<< key.index

/-- The key with the given bit. -/
def ofIndex? (index : Nat) : Option Key := all[index]?

/-- The bits of all keys, which is also the state with no key held. -/
def idle : Half := 0x3FF

end Key

/-- A source of interrupts. -/
inductive Interrupt where
  /-- Drawing reached the vertical blank. -/
  | vBlank
  /-- Drawing reached a horizontal blank. -/
  | hBlank
  /-- Drawing reached the selected line. -/
  | vCount
  | timer0
  | timer1
  | timer2
  | timer3
  | serial
  | dma0
  | dma1
  | dma2
  | dma3
  /-- The selected keys are held. -/
  | keypad
  | gamePak
  deriving DecidableEq, Repr

namespace Interrupt

/-- Every source, in the order of their bits. -/
def all : List Interrupt :=
  [vBlank, hBlank, vCount, timer0, timer1, timer2, timer3, serial, dma0, dma1, dma2, dma3, keypad,
    gamePak]

/-- The bit of a source. -/
def index : Interrupt → Nat
  | vBlank => 0
  | hBlank => 1
  | vCount => 2
  | timer0 => 3
  | timer1 => 4
  | timer2 => 5
  | timer3 => 6
  | serial => 7
  | dma0 => 8
  | dma1 => 9
  | dma2 => 10
  | dma3 => 11
  | keypad => 12
  | gamePak => 13

/-- The mask of a source's bit. -/
def mask (source : Interrupt) : Half := 1 <<< source.index

/-- The bits of all sources. -/
def allMask : Half := 0x3FFF

end Interrupt

end Handheld
