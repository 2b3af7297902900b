import Handheld.Cpu.Status

/-!
# Conditions

The sixteen condition codes of an instruction, what each asks of the status flags, and the suffix
it is written with.
-/

namespace Handheld

/-- The condition an instruction is executed under. -/
inductive Condition where
  /-- Equal. -/
  | eq
  /-- Not equal. -/
  | ne
  /-- Carry set: unsigned higher or same. -/
  | cs
  /-- Carry clear: unsigned lower. -/
  | cc
  /-- Negative. -/
  | mi
  /-- Positive or zero. -/
  | pl
  /-- Overflow. -/
  | vs
  /-- No overflow. -/
  | vc
  /-- Unsigned higher. -/
  | hi
  /-- Unsigned lower or same. -/
  | ls
  /-- Signed greater or equal. -/
  | ge
  /-- Signed less. -/
  | lt
  /-- Signed greater. -/
  | gt
  /-- Signed less or equal. -/
  | le
  /-- Always. -/
  | al
  /-- Never. -/
  | nv
  deriving DecidableEq, Repr

namespace Condition

/-- The condition a four-bit field names; every field names one. -/
def ofBits (field : BitVec 4) : Condition :=
  match field with
  | 0x0#4 => eq
  | 0x1#4 => ne
  | 0x2#4 => cs
  | 0x3#4 => cc
  | 0x4#4 => mi
  | 0x5#4 => pl
  | 0x6#4 => vs
  | 0x7#4 => vc
  | 0x8#4 => hi
  | 0x9#4 => ls
  | 0xA#4 => ge
  | 0xB#4 => lt
  | 0xC#4 => gt
  | 0xD#4 => le
  | 0xE#4 => al
  | _ => nv

/-- Whether the flags of `status` satisfy a condition. -/
def passes (condition : Condition) (status : Word) : Bool :=
  let n := status &&& Status.negative != 0
  let z := status &&& Status.zero != 0
  let c := status &&& Status.carry != 0
  let v := status &&& Status.overflow != 0
  match condition with
  | eq => z
  | ne => !z
  | cs => c
  | cc => !c
  | mi => n
  | pl => !n
  | vs => v
  | vc => !v
  | hi => c && !z
  | ls => !c || z
  | ge => n == v
  | lt => n != v
  | gt => !z && n == v
  | le => z || n != v
  | al => true
  | nv => false

/-- The suffix a mnemonic carries; the condition "always" is not written. -/
def suffix : Condition → String
  | eq => "EQ"
  | ne => "NE"
  | cs => "CS"
  | cc => "CC"
  | mi => "MI"
  | pl => "PL"
  | vs => "VS"
  | vc => "VC"
  | hi => "HI"
  | ls => "LS"
  | ge => "GE"
  | lt => "LT"
  | gt => "GT"
  | le => "LE"
  | al => ""
  | nv => "NV"

end Condition

end Handheld
