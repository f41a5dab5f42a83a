/-!
# Hexadecimal digits

Digits are written in lower case or in upper case and read in both.
-/

namespace Assay.Text

def hexDigit (digit : Nat) : Char :=
  if digit < 10 then Char.ofNat ('0'.toNat + digit)
  else Char.ofNat ('a'.toNat + digit - 10)

def upperHexDigit (digit : Nat) : Char :=
  if digit < 10 then Char.ofNat ('0'.toNat + digit)
  else Char.ofNat ('A'.toNat + digit - 10)

/-- The two digits of a byte, the high one first. -/
def hexByte (byte : Nat) : List Char :=
  [hexDigit (byte / 16 % 16), hexDigit (byte % 16)]

def hexValue? (character : Char) : Option Nat :=
  if character.isDigit then some (character.toNat - '0'.toNat)
  else if 'a' ≤ character ∧ character ≤ 'f' then some (character.toNat - 'a'.toNat + 10)
  else if 'A' ≤ character ∧ character ≤ 'F' then some (character.toNat - 'A'.toNat + 10)
  else none

@[simp] theorem hexValue?_hexDigit {digit : Nat} (small : digit < 16) :
    hexValue? (hexDigit digit) = some digit := by
  have every : ∀ digit : Fin 16, hexValue? (hexDigit digit) = some digit.val := by decide
  exact every ⟨digit, small⟩

@[simp] theorem hexValue?_upperHexDigit {digit : Nat} (small : digit < 16) :
    hexValue? (upperHexDigit digit) = some digit := by
  have every : ∀ digit : Fin 16, hexValue? (upperHexDigit digit) = some digit.val := by decide
  exact every ⟨digit, small⟩

end Assay.Text
