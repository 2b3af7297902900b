import Handheld.Arm.Decode
import Handheld.Proofs.Cpu.Shifter

/-!
# The words of ARM instructions

`Arm.Instruction.encode?` puts the fields of an instruction back into the places they are decoded
from. Encoding what was decoded gives the word again, but for the four bits that a halfword transfer
at a register offset does not read (`Arm.decodeInstruction_reproduces`). Transfers of status
registers, some of whose bits are not read either, and unallocated words have no encoding here.
-/

namespace Handheld

/-- One bit of a word as a field. -/
theorem Word.ofBool_getLsbD (word : Word) (place : Nat) :
    BitVec.ofBool (word.getLsbD place) = word.extractLsb' place 1 := by
  ext i bound
  have first : i = 0 := by omega
  subst first
  rw [BitVec.getElem_extractLsb', Nat.add_zero]
  exact BitVec.getElem_ofBool

/-- A mask that covers a field fixes it, so that the patterns of the decoder say what the fixed
fields of a word are. -/
theorem Word.field_of_masked {word mask value : Word} (masked : word &&& mask = value)
    {start length : Nat} (covered : mask.extractLsb' start length = BitVec.allOnes length) :
    word.extractLsb' start length = value.extractLsb' start length := by
  rw [← masked, BitVec.extractLsb'_and, covered, BitVec.and_allOnes]

/-- The four-bit field that names a condition. -/
def Condition.field : Condition → BitVec 4
  | eq => 0x0
  | ne => 0x1
  | cs => 0x2
  | cc => 0x3
  | mi => 0x4
  | pl => 0x5
  | vs => 0x6
  | vc => 0x7
  | hi => 0x8
  | ls => 0x9
  | ge => 0xA
  | lt => 0xB
  | gt => 0xC
  | le => 0xD
  | al => 0xE
  | nv => 0xF

/-- The sixteen conditions have the sixteen values of their field. -/
@[simp] theorem Condition.field_ofBits (field : BitVec 4) : (ofBits field).field = field := by
  revert field
  decide

/-- The two-bit field that names a shift. -/
def ShiftKind.field : ShiftKind → BitVec 2
  | lsl => 0b00
  | lsr => 0b01
  | asr => 0b10
  | ror => 0b11

/-- The four kinds of shift have the four values of their field. -/
@[simp] theorem ShiftKind.field_ofBits (field : BitVec 2) : (ofBits field).field = field := by
  revert field
  decide

/-- The four-bit field that names a register. -/
def RegNum.field (r : RegNum) : BitVec 4 := BitVec.ofFin r

namespace Arm

/-- The four-bit field that names an operation. -/
def Opcode.field : Opcode → BitVec 4
  | and => 0x0
  | eor => 0x1
  | sub => 0x2
  | rsb => 0x3
  | add => 0x4
  | adc => 0x5
  | sbc => 0x6
  | rsc => 0x7
  | tst => 0x8
  | teq => 0x9
  | cmp => 0xA
  | cmn => 0xB
  | orr => 0xC
  | mov => 0xD
  | bic => 0xE
  | mvn => 0xF

/-- The sixteen operations have the sixteen values of their field. -/
@[simp] theorem Opcode.field_ofBits (field : BitVec 4) : (ofBits field).field = field := by
  revert field
  decide

/-- The field that names what a halfword transfer moves. -/
def HalfwordKind.field : HalfwordKind → BitVec 2
  | unsigned => 0b01
  | signedByte => 0b10
  | signedHalfword => 0b11

/-- The lowest byte of a halfword transfer: two marks around what is moved, and the lowest bits. -/
def HalfwordKind.lowByte (kind : HalfwordKind) (lowest : BitVec 4) : BitVec 8 :=
  1#1 ++ kind.field ++ 1#1 ++ lowest

/-- The byte that was rotated into an immediate. -/
def unrotated (value : Word) (rotate : BitVec 5) : Byte :=
  (value.rotateRight (32 - rotate.toNat)).extractLsb' 0 8

/-- The amount and the kind of a shift, above the register it applies to. -/
def ShiftAmount.field (shift : ShiftKind) : ShiftAmount → BitVec 8
  | immediate amount => amount ++ shift.field ++ 0#1
  | register rs => rs.field ++ 0#1 ++ shift.field ++ 1#1

/-- One bit as a field. -/
def bit (value : Bool) : BitVec 1 := BitVec.ofBool value

/-- The upper bits of a transfer: its group, the addressing bits on both sides of bit 22, and the
base register. -/
def Indexing.head (indexing : Indexing) (group : BitVec 3) (bit22 load : Bool) (rn : RegNum) :
    BitVec 12 :=
  group ++ bit indexing.preIndex ++ bit indexing.up ++ bit bit22 ++ bit indexing.writeBack ++
    bit load ++ rn.field

/-- The bits below the condition of the word that an instruction is decoded from. Transfers of
status registers and unallocated words are left out. -/
def Instruction.encode? : Instruction → Option (BitVec 28)
  | dataProcessing opcode setFlags rn rd (.immediate value rotate) =>
    some (0b001#3 ++ opcode.field ++ bit setFlags ++ rn.field ++ rd.field ++
      rotate.extractLsb' 1 4 ++ unrotated value rotate)
  | dataProcessing opcode setFlags rn rd (.register rm shift amount) =>
    some (0b000#3 ++ opcode.field ++ bit setFlags ++ rn.field ++ rd.field ++
      amount.field shift ++ rm.field)
  | multiply accumulate setFlags rd rn rs rm =>
    some (0b000000#6 ++ bit accumulate ++ bit setFlags ++ rd.field ++ rn.field ++ rs.field ++
      0b1001#4 ++ rm.field)
  | multiplyLong signed accumulate setFlags rdHigh rdLow rs rm =>
    some (0b00001#5 ++ bit signed ++ bit accumulate ++ bit setFlags ++ rdHigh.field ++
      rdLow.field ++ rs.field ++ 0b1001#4 ++ rm.field)
  | swap byte rn rd rm =>
    some (0b00010#5 ++ bit byte ++ 0b00#2 ++ rn.field ++ rd.field ++ 0b00001001#8 ++ rm.field)
  | branchExchange rm => some (0x12FFF1#24 ++ rm.field)
  | halfwordTransfer load kind indexing rn rd (.immediate value) =>
    some (indexing.head 0b000#3 true load rn ++ rd.field ++ value.extractLsb' 4 4 ++
      kind.lowByte (value.extractLsb' 0 4))
  | halfwordTransfer load kind indexing rn rd (.register rm) =>
    some (indexing.head 0b000#3 false load rn ++ rd.field ++ 0#4 ++ kind.lowByte rm.field)
  | singleTransfer load byte indexing rn rd (.immediate value) =>
    some (indexing.head 0b010#3 byte load rn ++ rd.field ++ value)
  | singleTransfer load byte indexing rn rd (.register rm shift amount) =>
    some (indexing.head 0b011#3 byte load rn ++ rd.field ++
      (ShiftAmount.immediate amount).field shift ++ rm.field)
  | blockTransfer load userBank indexing rn registers =>
    some (indexing.head 0b100#3 userBank load rn ++ registers)
  | branch link offset => some (0b101#3 ++ bit link ++ offset.extractLsb' 2 24)
  | softwareInterrupt comment => some (0b1111#4 ++ comment)
  | coprocessor word => some (word.extractLsb' 0 28)
  | mrs .. | msr .. | undefined => none

/-- Whether an instruction transfers a halfword or a signed byte at a register offset. -/
def Instruction.isHalfwordAtRegister : Instruction → Bool
  | halfwordTransfer _ _ _ _ _ (.register _) => true
  | _ => false

/-- The bits below the condition that are not read: where a halfword transfer has the upper half of
an immediate offset, one at a register offset has nothing. -/
def Instruction.unreadBits (instruction : Instruction) : BitVec 28 :=
  if instruction.isHalfwordAtRegister then 0xF00#28 else 0#28

/-- An instruction gives back the word it was decoded from, but for the bits that are not read. -/
def Instruction.Reproduces (instruction : Instruction) (word : Word) : Prop :=
  ∀ code, instruction.encode? = some code →
    code = word.extractLsb' 0 28 &&& ~~~instruction.unreadBits

namespace Instruction

/-- An instruction without unread bits reproduces its word if its code is the whole word but for the
condition. -/
theorem Reproduces.of_all {instruction : Instruction} {word : Word}
    (unread : instruction.unreadBits = 0) {code : BitVec 28}
    (encoded : instruction.encode? = some code) (all : code = word.extractLsb' 0 28) :
    instruction.Reproduces word := by
  intro other same
  rw [unread, ← all]
  have others : other = code := Option.some.inj (same.symm.trans encoded)
  rw [others]
  exact BitVec.and_allOnes.symm

/-- Of an instruction that has no code there is nothing to reproduce. -/
theorem Reproduces.of_none {instruction : Instruction} (word : Word)
    (none : instruction.encode? = none) : instruction.Reproduces word := by
  intro code encoded
  rw [none] at encoded
  cases encoded

end Instruction

variable {word : Word}

/-- The number of a register is the field it was read from. -/
theorem field_registerAt (word : Word) (start : Nat) :
    RegNum.field (registerAt word start) = word.extractLsb' start 4 :=
  rfl

/-- A bit whose value is known is that value. -/
theorem bit_of_eq {place : Nat} {value : Bool} (bit : word.getLsbD place = value) :
    BitVec.ofBool value = word.extractLsb' place 1 := by
  rw [← bit, word.ofBool_getLsbD]

theorem bit_getLsbD (word : Word) (place : Nat) :
    bit (word.getLsbD place) = word.extractLsb' place 1 :=
  word.ofBool_getLsbD place

/-- A product gives its word back: the pattern fixes ten bits of the lower twenty-eight, and the
others are its two flags and four registers. -/
theorem reproduces_multiply (shape : word &&& 0x0FC000F0 = 0x00000090) :
    (Instruction.multiply (word.getLsbD 21) (word.getLsbD 20) (registerAt word 16)
      (registerAt word 12) (registerAt word 8) (registerAt word 0)).Reproduces word := by
  have top : word.extractLsb' 22 6 = 0b000000#6 := Word.field_of_masked shape rfl
  have mark : word.extractLsb' 4 4 = 0b1001#4 := Word.field_of_masked shape rfl
  apply Instruction.Reproduces.of_all rfl rfl
  simp only [field_registerAt, bit_getLsbD, ← top, ← mark]
  simp (disch := rfl) only [BitVec.extractLsb'_append_extractLsb'_eq_extractLsb']

/-- A long product gives its word back. Its pattern fixes one bit less, which tells whether the
product is signed. -/
theorem reproduces_multiplyLong (shape : word &&& 0x0F8000F0 = 0x00800090) :
    (Instruction.multiplyLong (word.getLsbD 22) (word.getLsbD 21) (word.getLsbD 20)
      (registerAt word 16) (registerAt word 12) (registerAt word 8)
        (registerAt word 0)).Reproduces word := by
  have top : word.extractLsb' 23 5 = 0b00001#5 := Word.field_of_masked shape rfl
  have mark : word.extractLsb' 4 4 = 0b1001#4 := Word.field_of_masked shape rfl
  apply Instruction.Reproduces.of_all rfl rfl
  simp only [field_registerAt, bit_getLsbD, ← top, ← mark]
  simp (disch := rfl) only [BitVec.extractLsb'_append_extractLsb'_eq_extractLsb']

/-- An exchange with memory gives its word back. Four of its bits name no register and have to be
zero, or the word is not an exchange. -/
theorem reproduces_swap (shape : word &&& 0x0FB00FF0 = 0x01000090) :
    (Instruction.swap (word.getLsbD 22) (registerAt word 16) (registerAt word 12)
      (registerAt word 0)).Reproduces word := by
  have top : word.extractLsb' 23 5 = 0b00010#5 := Word.field_of_masked shape rfl
  have middle : word.extractLsb' 20 2 = 0b00#2 := Word.field_of_masked shape rfl
  have mark : word.extractLsb' 4 8 = 0b00001001#8 := Word.field_of_masked shape rfl
  apply Instruction.Reproduces.of_all rfl rfl
  simp only [field_registerAt, bit_getLsbD, ← top, ← middle, ← mark]
  simp (disch := rfl) only [BitVec.extractLsb'_append_extractLsb'_eq_extractLsb']

/-- A branch that may change the instruction set gives its word back, all of which but the register
is fixed. -/
theorem reproduces_branchExchange (shape : word &&& 0x0FFFFFF0 = 0x012FFF10) :
    (Instruction.branchExchange (registerAt word 0)).Reproduces word := by
  have top : word.extractLsb' 4 24 = 0x12FFF1#24 := Word.field_of_masked shape rfl
  apply Instruction.Reproduces.of_all rfl rfl
  rw [field_registerAt, ← top]
  exact BitVec.extractLsb'_append_extractLsb'_eq_extractLsb' rfl

/-- The upper half of a transfer holds its group, the way it indexes, two more bits and its base.
All three kinds of transfers share it. -/
theorem Indexing.head_ofWord {group : BitVec 3} (inGroup : word.extractLsb' 25 3 = group)
    {bit22 : Bool} (given : word.getLsbD 22 = bit22) :
    (Indexing.ofWord word).head group bit22 (word.getLsbD 20) (registerAt word 16) =
      word.extractLsb' 16 12 := by
  simp only [head, ofWord, ← inGroup, ← given, bit_getLsbD, field_registerAt]
  simp (disch := rfl) only [BitVec.extractLsb'_append_extractLsb'_eq_extractLsb']

/-- The lower byte of a halfword transfer holds its kind between two fixed bits, and four bits of
its offset. -/
theorem HalfwordKind.lowByte_eq (mark7 : word.getLsbD 7 = true) (mark4 : word.getLsbD 4 = true)
    {kind : HalfwordKind} (moves : word.extractLsb' 5 2 = kind.field) :
    kind.lowByte (word.extractLsb' 0 4) = word.extractLsb' 0 8 := by
  have upper : 1#1 = word.extractLsb' 7 1 := bit_of_eq mark7
  have lower : 1#1 = word.extractLsb' 4 1 := bit_of_eq mark4
  -- The two marks look alike, so the upper one is put into place on its own.
  have marked : 1#1 ++ kind.field = word.extractLsb' 5 3 := by
    rw [upper, ← moves]
    exact BitVec.extractLsb'_append_extractLsb'_eq_extractLsb' rfl
  rw [lowByte, marked, lower]
  simp (disch := rfl) only [BitVec.extractLsb'_append_extractLsb'_eq_extractLsb']

/-- A halfword transfer at an immediate offset gives its word back. The offset is split in two
fields, the lowest four bits and the four above bit 7. -/
theorem reproduces_immediateHalfword (inGroup : word.extractLsb' 25 3 = 0b000#3)
    (immediate : word.getLsbD 22 = true) (mark7 : word.getLsbD 7 = true)
    (mark4 : word.getLsbD 4 = true) {kind : HalfwordKind}
    (moves : word.extractLsb' 5 2 = kind.field) :
    (Instruction.halfwordTransfer (word.getLsbD 20) kind (Indexing.ofWord word)
      (registerAt word 16) (registerAt word 12)
        (.immediate (word.extractLsb' 8 4 ++ word.extractLsb' 0 4))).Reproduces word := by
  apply Instruction.Reproduces.of_all rfl rfl
  rw [Indexing.head_ofWord inGroup immediate, BitVec.extractLsb'_append_eq_left,
    BitVec.extractLsb'_append_eq_right, field_registerAt, kind.lowByte_eq mark7 mark4 moves]
  simp (disch := rfl) only [BitVec.extractLsb'_append_extractLsb'_eq_extractLsb']

/-- A halfword transfer at a register offset gives its word back, up to the four bits above bit 7,
which the decoder does not read. -/
theorem reproduces_registerHalfword (inGroup : word.extractLsb' 25 3 = 0b000#3)
    (register : word.getLsbD 22 = false) (mark7 : word.getLsbD 7 = true)
    (mark4 : word.getLsbD 4 = true) {kind : HalfwordKind}
    (moves : word.extractLsb' 5 2 = kind.field) :
    (Instruction.halfwordTransfer (word.getLsbD 20) kind (Indexing.ofWord word)
      (registerAt word 16) (registerAt word 12)
        (.register (registerAt word 0))).Reproduces word := by
  have low : word.extractLsb' 0 28 =
      word.extractLsb' 12 16 ++ word.extractLsb' 8 4 ++ word.extractLsb' 0 8 := by
    simp (disch := rfl) only [BitVec.extractLsb'_append_extractLsb'_eq_extractLsb']
  have read : ~~~0xF00#28 = BitVec.allOnes 16 ++ 0#4 ++ BitVec.allOnes 8 := rfl
  intro code encoded
  cases encoded
  show _ = word.extractLsb' 0 28 &&& ~~~0xF00#28
  rw [Indexing.head_ofWord inGroup register, field_registerAt, field_registerAt,
    kind.lowByte_eq mark7 mark4 moves, low, read, BitVec.and_append, BitVec.and_append,
    BitVec.and_allOnes, BitVec.and_allOnes, BitVec.and_zero]
  simp (disch := rfl) only [BitVec.extractLsb'_append_extractLsb'_eq_extractLsb']

/-- Whatever the decoder makes of a word with both marks set gives the word back. The two bits
between the marks tell the kind, and what is no transfer, or would store a signed unit, is
undefined. -/
theorem reproduces_decodeHalfwordTransfer (inGroup : word.extractLsb' 25 3 = 0b000#3)
    (mark7 : word.getLsbD 7 = true) (mark4 : word.getLsbD 4 = true) :
    (decodeHalfwordTransfer word).Reproduces word := by
  have transfer {kind : HalfwordKind} (moves : word.extractLsb' 5 2 = kind.field) :
      (Instruction.halfwordTransfer (word.getLsbD 20) kind (Indexing.ofWord word)
        (registerAt word 16) (registerAt word 12)
          (if word.getLsbD 22 then .immediate (word.extractLsb' 8 4 ++ word.extractLsb' 0 4)
            else .register (registerAt word 0))).Reproduces word := by
    cases addressed : word.getLsbD 22 with
    | true => exact reproduces_immediateHalfword inGroup addressed mark7 mark4 moves
    | false => exact reproduces_registerHalfword inGroup addressed mark7 mark4 moves
  unfold decodeHalfwordTransfer
  dsimp only
  split
  case h_1 moves => exact transfer moves
  case h_2 moves =>
    split
    · exact transfer moves
    · exact .of_none word rfl
  case h_3 moves =>
    split
    · exact transfer moves
    · exact .of_none word rfl
  case h_4 => exact .of_none word rfl

/-- A transfer between a register and a status gives those bits back that it reads. The decoder
leaves some unread, which no code fixes. -/
theorem reproduces_decodeStatusTransfer (operand : StatusOperand) :
    (decodeStatusTransfer word operand).Reproduces word := by
  unfold decodeStatusTransfer
  dsimp only
  split <;> exact .of_none word rfl

/-- The amount and the kind of a shift take up the eight bits between two register fields, with a
zero as the last of them. -/
theorem ShiftAmount.field_shiftAmountOf (mark4 : word.getLsbD 4 = false) :
    (ShiftAmount.immediate (shiftAmountOf word)).field (shiftKindOf word) =
      word.extractLsb' 4 8 := by
  have lower : 0#1 = word.extractLsb' 4 1 := bit_of_eq mark4
  rw [field, shiftAmountOf, shiftKindOf, ShiftKind.field_ofBits, lower]
  simp (disch := rfl) only [BitVec.extractLsb'_append_extractLsb'_eq_extractLsb']

/-- A shift by a register holds the register, and the kind between two fixed bits, of which the
upper one tells it from a product. -/
theorem ShiftAmount.field_registerAt (mark7 : word.getLsbD 7 = false)
    (mark4 : word.getLsbD 4 = true) :
    (ShiftAmount.register (registerAt word 8)).field (shiftKindOf word) =
      word.extractLsb' 4 8 := by
  have upper : 0#1 = word.extractLsb' 7 1 := bit_of_eq mark7
  have lower : 1#1 = word.extractLsb' 4 1 := bit_of_eq mark4
  rw [field, shiftKindOf, ShiftKind.field_ofBits, Arm.field_registerAt, upper, lower]
  simp (disch := rfl) only [BitVec.extractLsb'_append_extractLsb'_eq_extractLsb']

/-- An operation whose second operand is a register gives its word back, be it shifted by a constant
or by a register. -/
theorem reproduces_decodeRegisterOperation (inGroup : word.extractLsb' 25 3 = 0b000#3)
    (unmarked : (word.getLsbD 7 && word.getLsbD 4) = false) :
    (decodeRegisterOperation word).Reproduces word := by
  unfold decodeRegisterOperation
  dsimp only
  split
  · exact reproduces_decodeStatusTransfer _
  · apply Instruction.Reproduces.of_all rfl rfl
    have shift : ShiftAmount.field (shiftKindOf word)
        (if word.getLsbD 4 then .register (registerAt word 8)
          else .immediate (shiftAmountOf word)) = word.extractLsb' 4 8 := by
      cases mark4 : word.getLsbD 4 with
      | true =>
          rw [mark4, Bool.and_true] at unmarked
          exact ShiftAmount.field_registerAt unmarked mark4
      | false => exact ShiftAmount.field_shiftAmountOf mark4
    rw [shift, ← inGroup, Opcode.field_ofBits]
    simp (disch := rfl) only [field_registerAt, bit_getLsbD,
      BitVec.extractLsb'_append_extractLsb'_eq_extractLsb']

/-- Whatever the decoder makes of the first group, in which several kinds of instructions lie among
each other, gives its word back. -/
theorem reproduces_decodeRegisterGroup (inGroup : word.extractLsb' 25 3 = 0b000#3) :
    (decodeRegisterGroup word).Reproduces word := by
  unfold decodeRegisterGroup
  split
  case isTrue shape => exact reproduces_multiply shape
  split
  case isTrue shape => exact reproduces_multiplyLong shape
  split
  case isTrue shape => exact reproduces_swap shape
  split
  case isTrue marked =>
    rw [Bool.and_eq_true] at marked
    exact reproduces_decodeHalfwordTransfer inGroup marked.1 marked.2
  case isFalse unmarked =>
    exact reproduces_decodeRegisterOperation inGroup (Bool.eq_false_iff.mpr unmarked)

/-- Turning an immediate back gives the byte it was made from. -/
theorem unrotated_rotateRight (byte : Byte) (rotate : BitVec 5) :
    unrotated ((byte.setWidth 32).rotateRight rotate.toNat) rotate = byte := by
  have around : rotate.toNat + (32 - rotate.toNat) = 32 := by omega
  have unmoved : (byte.setWidth 32).rotateRight 0 = byte.setWidth 32 :=
    ShiftKind.ror.move_zero _
  rw [unrotated, ← Word.rotateRight_add, around, ← BitVec.rotateRight_mod_eq_rotateRight,
    Nat.mod_self, unmoved, BitVec.extractLsb'_setWidth_of_le (by decide),
    BitVec.extractLsb'_eq_self]

/-- Whatever the decoder makes of the group of operations with a constant gives its word back, be it
a data operation, a write of the status, or undefined. -/
theorem reproduces_decodeImmediateGroup (inGroup : word.extractLsb' 25 3 = 0b001#3) :
    (decodeImmediateGroup word).Reproduces word := by
  unfold decodeImmediateGroup
  dsimp only
  split
  · split
    · exact reproduces_decodeStatusTransfer _
    · exact .of_none word rfl
  · apply Instruction.Reproduces.of_all rfl rfl
    rw [unrotated_rotateRight, BitVec.extractLsb'_append_eq_left, ← inGroup, Opcode.field_ofBits]
    simp (disch := rfl) only [field_registerAt, bit_getLsbD,
      BitVec.extractLsb'_append_extractLsb'_eq_extractLsb']

/-- A transfer with a constant offset gives its word back. -/
theorem reproduces_decodeSingleTransfer_immediate (inGroup : word.extractLsb' 25 3 = 0b010#3) :
    (decodeSingleTransfer word (.immediate (word.extractLsb' 0 12))).Reproduces word := by
  apply Instruction.Reproduces.of_all rfl rfl
  rw [Indexing.head_ofWord inGroup rfl, field_registerAt]
  simp (disch := rfl) only [BitVec.extractLsb'_append_extractLsb'_eq_extractLsb']

/-- A transfer with a shifted register as its offset gives its word back. The amount of the shift is
always a constant here. -/
theorem reproduces_decodeSingleTransfer_register (inGroup : word.extractLsb' 25 3 = 0b011#3)
    (mark4 : word.getLsbD 4 = false) :
    (decodeSingleTransfer word (.register (registerAt word 0) (shiftKindOf word)
      (shiftAmountOf word))).Reproduces word := by
  apply Instruction.Reproduces.of_all rfl rfl
  rw [Indexing.head_ofWord inGroup rfl, ShiftAmount.field_shiftAmountOf mark4, field_registerAt,
    field_registerAt]
  simp (disch := rfl) only [BitVec.extractLsb'_append_extractLsb'_eq_extractLsb']

/-- A transfer of several registers gives its word back, with the list as its lower half and all the
rest in the upper one. -/
theorem reproduces_blockTransfer (inGroup : word.extractLsb' 25 3 = 0b100#3) :
    (Instruction.blockTransfer (word.getLsbD 20) (word.getLsbD 22) (Indexing.ofWord word)
      (registerAt word 16) (word.extractLsb' 0 16)).Reproduces word := by
  apply Instruction.Reproduces.of_all rfl rfl
  rw [Indexing.head_ofWord inGroup rfl]
  exact BitVec.extractLsb'_append_extractLsb'_eq_extractLsb' rfl

/-- The distance of a branch counts in words, which keeps its field: two zeros are put below it, and
the sign above, and neither changes the bits between. -/
theorem extractLsb'_signExtend_append (field : BitVec 24) :
    ((field ++ 0b00#2).signExtend 32).extractLsb' 2 24 = field := by
  ext i bound
  have inside : 2 + i < 26 := by omega
  have inWord : 2 + i < 32 := by omega
  have above : ¬ 2 + i < 2 := by omega
  have place : 2 + i - 2 = i := by omega
  rw [BitVec.getElem_extractLsb', BitVec.getLsbD_signExtend, if_pos inside,
    decide_eq_true inWord, Bool.true_and, BitVec.getLsbD_append, if_neg above, place,
    BitVec.getLsbD_eq_getElem bound]

/-- A branch gives its word back: its field is the offset in bytes without the two zeros at the end
and the copies of the sign in front. -/
theorem reproduces_branch (inGroup : word.extractLsb' 25 3 = 0b101#3) :
    (Instruction.branch (word.getLsbD 24)
      ((word.extractLsb' 0 24 ++ 0b00#2).signExtend 32)).Reproduces word := by
  apply Instruction.Reproduces.of_all rfl rfl
  rw [extractLsb'_signExtend_append, ← inGroup, bit_getLsbD]
  simp (disch := rfl) only [BitVec.extractLsb'_append_extractLsb'_eq_extractLsb']

/-- A software interrupt gives its word back, with its number in the lower bits, although nothing in
the machine reads this number. -/
theorem reproduces_softwareInterrupt (inGroup : word.extractLsb' 25 3 = 0b111#3)
    (mark24 : word.getLsbD 24 = true) :
    (Instruction.softwareInterrupt (word.extractLsb' 0 24)).Reproduces word := by
  have lower : 1#1 = word.extractLsb' 24 1 := bit_of_eq mark24
  have top : word.extractLsb' 25 3 ++ word.extractLsb' 24 1 = 0b1111#4 := by
    rw [inGroup, ← lower]
    rfl
  apply Instruction.Reproduces.of_all rfl rfl
  rw [← top]
  simp (disch := rfl) only [BitVec.extractLsb'_append_extractLsb'_eq_extractLsb']

/-- Encoding what a word was decoded to gives the word again, up to the bits that are not read. One
case for each group of the decoder. -/
theorem decodeInstruction_reproduces (word : Word) : (decodeInstruction word).Reproduces word := by
  unfold decodeInstruction
  split
  case isTrue shape => exact reproduces_branchExchange shape
  split
  case h_1 inGroup => exact reproduces_decodeRegisterGroup inGroup
  case h_2 inGroup => exact reproduces_decodeImmediateGroup inGroup
  case h_3 inGroup => exact reproduces_decodeSingleTransfer_immediate inGroup
  case h_4 inGroup =>
    split
    case isTrue => exact .of_none word rfl
    case isFalse mark4 =>
      exact reproduces_decodeSingleTransfer_register inGroup (Bool.eq_false_iff.mpr mark4)
  case h_5 inGroup => exact reproduces_blockTransfer inGroup
  case h_6 inGroup => exact reproduces_branch inGroup
  case h_7 => exact .of_all rfl rfl rfl
  case h_8 =>
    split
    case isTrue mark24 =>
      have inGroup : word.extractLsb' 25 3 = 0b111#3 := by
        generalize word.extractLsb' 25 3 = group at *
        revert group
        decide
      exact reproduces_softwareInterrupt inGroup mark24
    case isFalse => exact .of_all rfl rfl rfl

/-- Whether an instruction reads or writes a status register. -/
def Instruction.isStatusTransfer : Instruction → Bool
  | mrs .. | msr .. => true
  | _ => false

/-- Every instruction has a code, except those that are undefined and the status transfers, of which
not all are made by words. -/
theorem Instruction.exists_encode {instruction : Instruction}
    (allocated : instruction ≠ .undefined) (general : instruction.isStatusTransfer = false) :
    ∃ code, instruction.encode? = some code := by
  cases instruction with
  | mrs | msr => cases general
  | undefined => exact absurd rfl allocated
  | dataProcessing opcode setFlags rn rd operand => cases operand <;> exact ⟨_, rfl⟩
  | halfwordTransfer load kind indexing rn rd offset => cases offset <;> exact ⟨_, rfl⟩
  | singleTransfer load byte indexing rn rd offset => cases offset <;> exact ⟨_, rfl⟩
  | _ => exact ⟨_, rfl⟩

end Arm

end Handheld
