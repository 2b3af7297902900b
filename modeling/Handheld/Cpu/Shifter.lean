import Handheld.Word

/-!
# The barrel shifter

Shifts and rotations of an operand together with the carry they produce: the last bit shifted out,
or the carry that came in when nothing is shifted. An immediate amount has five bits, and zero
stands for 32 (for a rotation, for one step through the carry). An amount from a register is a
whole byte.
-/

namespace Handheld

/-- What the shifter does. -/
inductive ShiftKind where
  /-- Logical shift left. -/
  | lsl
  /-- Logical shift right. -/
  | lsr
  /-- Arithmetic shift right. -/
  | asr
  /-- Rotation right. -/
  | ror
  deriving DecidableEq, Repr

namespace ShiftKind

/-- The kind a two-bit field names. -/
def ofBits (field : BitVec 2) : ShiftKind :=
  match field with
  | 0#2 => lsl
  | 1#2 => lsr
  | 2#2 => asr
  | _ => ror

/-- The name in assembly text. -/
def mnemonic : ShiftKind → String
  | lsl => "LSL"
  | lsr => "LSR"
  | asr => "ASR"
  | ror => "ROR"

end ShiftKind

/-- A shifted operand and the shifter's carry. -/
structure Shifted where
  value : Word
  carry : Bool
  deriving DecidableEq, Repr

namespace Shifted

/-- All bits equal to the sign of `value`. -/
def signFill (value : Word) : Word := if value.msb then 0xFFFFFFFF else 0

/-- A shift by 1 to 31 places, or a rotation by as many. -/
def within (kind : ShiftKind) (value : Word) (amount : Nat) : Shifted :=
  match kind with
  | .lsl => ⟨value <<< amount, value.getLsbD (32 - amount)⟩
  | .lsr => ⟨value >>> amount, value.getLsbD (amount - 1)⟩
  | .asr => ⟨value.sshiftRight amount, value.getLsbD (amount - 1)⟩
  | .ror => ⟨value.rotateRight amount, value.getLsbD (amount - 1)⟩

/-- A shift by the amount in an instruction. -/
def byImmediate (kind : ShiftKind) (value : Word) (amount : BitVec 5) (carry : Bool) : Shifted :=
  if amount = 0 then
    match kind with
    | .lsl => ⟨value, carry⟩
    | .lsr => ⟨0, value.msb⟩
    | .asr => ⟨signFill value, value.msb⟩
    | .ror => ⟨BitVec.ofBool carry ++ value.extractLsb' 1 31, value.getLsbD 0⟩
  else within kind value amount.toNat

/-- A shift by the amount in the low byte of a register. -/
def byRegister (kind : ShiftKind) (value : Word) (amount : Byte) (carry : Bool) : Shifted :=
  let n := amount.toNat
  if n = 0 then ⟨value, carry⟩
  else
    match kind with
    | .lsl =>
      if n < 32 then within .lsl value n
      else ⟨0, if n = 32 then value.getLsbD 0 else false⟩
    | .lsr =>
      if n < 32 then within .lsr value n
      else ⟨0, if n = 32 then value.msb else false⟩
    | .asr => if n < 32 then within .asr value n else ⟨signFill value, value.msb⟩
    | .ror => if n % 32 = 0 then ⟨value, value.msb⟩ else within .ror value (n % 32)

end Shifted

end Handheld
