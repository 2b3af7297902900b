import Handheld.Assembly.Hex
import Handheld.Cpu.Shifter

/-!
# Assembly text

The text of an instruction is a mnemonic, with its suffixes, and a list of operands. Here are the
operands both instruction sets write the same way.
-/

namespace Handheld

/-- The text of one instruction. -/
structure Assembly where
  /-- The operation with its condition and other suffixes. -/
  mnemonic : String
  /-- The operands, as they are written after the mnemonic. -/
  operands : String
  deriving DecidableEq, Repr

namespace Assembly

/-- The whole text: mnemonic and operands, separated by a space when there are operands. -/
def text (assembly : Assembly) : String :=
  if assembly.operands.isEmpty then assembly.mnemonic
  else assembly.mnemonic ++ " " ++ assembly.operands

/-- The name of a register. -/
def register (r : RegNum) : String :=
  if r = .sp then "sp"
  else if r = .lr then "lr"
  else if r = .pc then "pc"
  else "r" ++ toString r.val

/-- A number in hexadecimal. -/
def hexImmediate (n : Nat) : String := "#" ++ Hex.text n

/-- Operands in a row. -/
def commaSeparated (operands : List String) : String := ", ".intercalate operands

/-- The registers of a list, lowest first, in braces. -/
def registerList (registers : Half) : String :=
  let listed := (List.finRange 16).filter fun r => registers.getLsbD r.val
  "\x7b" ++ commaSeparated (listed.map register) ++ "\x7d"

/-- "LDR" or "STR". -/
def transferName (load : Bool) : String := if load then "LDR" else "STR"

/-- A suffix that is written when it applies. -/
def suffixIf (applies : Bool) (suffix : String) : String := if applies then suffix else ""

/-- Where a branch goes: its address when the address of the instruction is known, else the
distance from the instruction. -/
def branchTarget (address? : Option Word) (relative : Word) : String :=
  match address? with
  | some address => Hex.fixedText 8 (address + relative).toNat
  | none =>
    if relative.msb then "$-" ++ Hex.text (-relative).toNat else "$+" ++ Hex.text relative.toNat

end Assembly

end Handheld
