/-!
# Machine words

The widths every part of the console agrees on, the split of halfwords and words into bytes
(the low byte comes first in memory), and rounding an address down to the width it is accessed
with.
-/

namespace Handheld

/-- One memory cell. -/
abbrev Byte := BitVec 8

/-- Two bytes. -/
abbrev Half := BitVec 16

/-- Four bytes: a register, an address or an ARM instruction. -/
abbrev Word := BitVec 32

/-- The number of a general register. -/
abbrev RegNum := Fin 16

namespace RegNum

/-- The stack pointer. -/
def sp : RegNum := 13

/-- The link register. -/
def lr : RegNum := 14

/-- The program counter. -/
def pc : RegNum := 15

end RegNum

/-- The halfword with the given low and high byte. -/
def Half.ofBytes (low high : Byte) : Half := high ++ low

/-- The low byte of a halfword. -/
def Half.low (half : Half) : Byte := half.extractLsb' 0 8

/-- The high byte of a halfword. -/
def Half.high (half : Half) : Byte := half.extractLsb' 8 8

/-- The word with the given bytes, lowest first. -/
def Word.ofBytes (b0 b1 b2 b3 : Byte) : Word := b3 ++ b2 ++ b1 ++ b0

/-- The low halfword of a word. -/
def Word.lowHalf (word : Word) : Half := word.extractLsb' 0 16

/-- The high halfword of a word. -/
def Word.highHalf (word : Word) : Half := word.extractLsb' 16 16

/-- The low byte of a word. -/
def Word.lowByte (word : Word) : Byte := word.extractLsb' 0 8

/-- The four bytes of a word, lowest first. -/
def Word.bytes (word : Word) : List Byte :=
  [word.extractLsb' 0 8, word.extractLsb' 8 8, word.extractLsb' 16 8, word.extractLsb' 24 8]

/-- The address of the halfword that holds `address`. -/
def Word.alignHalf (address : Word) : Word := address &&& 0xFFFFFFFE#32

/-- The address of the word that holds `address`. -/
def Word.alignWord (address : Word) : Word := address &&& 0xFFFFFFFC#32

@[simp] theorem Half.low_ofBytes (low high : Byte) : (Half.ofBytes low high).low = low := by
  ext i hi
  simp only [Half.low, Half.ofBytes, BitVec.getElem_extractLsb', BitVec.getLsbD_append]
  simp [hi]

@[simp] theorem Half.high_ofBytes (low high : Byte) : (Half.ofBytes low high).high = high := by
  ext i hi
  simp only [Half.high, Half.ofBytes, BitVec.getElem_extractLsb', BitVec.getLsbD_append]
  simp [hi]

/-- Bits put above others are added to them. -/
theorem toNat_append_eq_add {high low : Nat} (upper : BitVec high) (lower : BitVec low) :
    (upper ++ lower).toNat = upper.toNat <<< low + lower.toNat := by
  rw [BitVec.toNat_append, Nat.shiftLeft_add_eq_or_of_lt lower.isLt]

end Handheld
