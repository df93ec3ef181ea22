/-!
Rows of decimal or hexadecimal digits and the numbers that they write.  The digits of a number write
that number again (`numeral_digitsOf`).
-/

namespace SoundScene.Text

def digitsOf (n : Nat) : List Char := Nat.toDigits 10 n

def digitValue (c : Char) : Nat := c.toNat - '0'.toNat

/-- The number that decimal digits write; there may be zeros before them. -/
def numeral (digits : List Char) : Nat := Nat.ofDigitChars 10 digits 0

theorem numeral_digitsOf (n : Nat) : numeral (digitsOf n) = n :=
  Nat.ofDigitChars_toDigits (by decide) (by decide)

theorem isDigit_of_mem_digitsOf {n : Nat} {c : Char} (member : c ∈ digitsOf n) : c.isDigit :=
  Nat.isDigit_of_mem_toDigits (by decide) (by decide) member

/-- What a hexadecimal digit is worth; its letters may be of either case. -/
def hexValue? (c : Char) : Option Nat :=
  if c.isDigit then some (digitValue c)
  else if 'a' ≤ c ∧ c ≤ 'f' then some (c.toNat - 'a'.toNat + 10)
  else if 'A' ≤ c ∧ c ≤ 'F' then some (c.toNat - 'A'.toNat + 10)
  else none

def hexNumeral? (digits : List Char) : Option Nat :=
  digits.foldlM (fun n c => (hexValue? c).map (n * 16 + ·)) 0

example : hexNumeral? ['f', 'F', '0'] = some 0xFF0 := by decide

example : hexNumeral? ['0', 'g'] = none := by decide

end SoundScene.Text
