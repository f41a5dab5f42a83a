import Assay.Text.Blank
import Assay.Text.Hexadecimal

/-!
# Addresses of four bytes

An address is written as up to four numbers with dots between them.  A number is
hexadecimal behind `0x` and octal behind `0`.  The last number fills all the
bytes that the others leave.
-/

namespace Assay

structure Address4 where
  number : Nat
deriving DecidableEq

namespace Address4

/-- The value of digits in a base of sixteen at most. -/
def digitsValue? (base : Nat) (digits : List Char) : Option Nat :=
  digits.foldlM (fun value digit => do
    let digit ← Text.hexValue? digit
    if digit < base then some (value * base + digit) else none) 0

def readNumber? (part : List Char) : Option Nat :=
  match part with
  | [] => none
  | '0' :: 'x' :: digits => digitsValue? 16 digits
  | '0' :: 'X' :: digits => digitsValue? 16 digits
  | '0' :: digits => digitsValue? 8 digits
  | digits => digitsValue? 10 digits

/-- The parts of a name.  A dot at the end is no part. -/
def parts (name : List Char) : List (List Char) :=
  let pieces := Text.pieces '.' name
  if pieces.getLast? = some [] then pieces.dropLast else pieces

/-- A name whose last part is a number, or is made of digits, can only be an
address. -/
def isMeant (name : List Char) : Bool :=
  match (parts name).getLast? with
  | none => false
  | some last => (!last.isEmpty && last.all Char.isDigit) || (readNumber? last).isSome

/-- The numbers of single bytes, and the number of the bytes that are left. -/
def ofNumbers? (count : Nat) (value : Nat) : List Nat → Option Address4
  | [] => none
  | [last] =>
      let room := Nat.pow 256 (5 - count)
      if last < room then some ⟨value * room + last⟩ else none
  | number :: rest =>
      if number < 256 then ofNumbers? (count + 1) (value * 256 + number) rest else none

def parse (name : List Char) : Option Address4 := do
  let parts := parts name
  if 4 < parts.length then none
  let numbers ← parts.mapM readNumber?
  ofNumbers? 1 0 numbers

/-- The four bytes as decimal numbers. -/
def text (address : Address4) : String :=
  ".".intercalate ([16777216, 65536, 256, 1].map fun place =>
    toString (address.number / place % 256))

end Address4

end Assay
