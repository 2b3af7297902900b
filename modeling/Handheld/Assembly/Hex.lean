import Handheld.Word

/-!
# Hexadecimal numbers

Upper-case hexadecimal text, with as many digits as a number needs or with a fixed count.
-/

namespace Handheld.Hex

/-- The digit of a value below sixteen. -/
def digit (value : Nat) : Char := Char.ofNat (if value < 10 then 48 + value else 55 + value)

/-- As many digits as the number needs, at least one. -/
def digits (n : Nat) : List Char :=
  if n < 16 then [digit n] else digits (n / 16) ++ [digit (n % 16)]
termination_by n
decreasing_by omega

/-- The lowest `count` digits, leading zeros included. -/
def fixedDigits : Nat → Nat → List Char
  | 0, _ => []
  | count + 1, n => fixedDigits count (n / 16) ++ [digit (n % 16)]

/-- A number after `0x`. -/
def text (n : Nat) : String := "0x" ++ String.ofList (digits n)

/-- The lowest `count` digits of a number after `0x`. -/
def fixedText (count n : Nat) : String := "0x" ++ String.ofList (fixedDigits count n)

/-- A signed word as a sign (nothing for zero and above) and a number. -/
def signedText (value : Word) : String :=
  if value.msb then "-" ++ text (-value).toNat else text value.toNat

end Handheld.Hex
