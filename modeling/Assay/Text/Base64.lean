/-!
# Base64

Three bytes are written as four characters of six bits each; a group of one or
two bytes at the end is filled up with equals signs.  Decoding gives the bytes
back.
-/

namespace Assay.Text.Base64

/-- The character of six bits. -/
def symbol (sextet : Nat) : Char :=
  if sextet < 26 then Char.ofNat ('A'.toNat + sextet)
  else if sextet < 52 then Char.ofNat ('a'.toNat + (sextet - 26))
  else if sextet < 62 then Char.ofNat ('0'.toNat + (sextet - 52))
  else if sextet = 62 then '+'
  else '/'

def sextet? (symbol : Char) : Option Nat :=
  if 'A' ≤ symbol ∧ symbol ≤ 'Z' then some (symbol.toNat - 'A'.toNat)
  else if 'a' ≤ symbol ∧ symbol ≤ 'z' then some (symbol.toNat - 'a'.toNat + 26)
  else if '0' ≤ symbol ∧ symbol ≤ '9' then some (symbol.toNat - '0'.toNat + 52)
  else if symbol = '+' then some 62
  else if symbol = '/' then some 63
  else none

def encodeList : List UInt8 → List Char
  | [] => []
  | [first] =>
      let bits := first.toNat * 16
      [symbol (bits / 64), symbol (bits % 64), '=', '=']
  | [first, second] =>
      let bits := (first.toNat * 256 + second.toNat) * 4
      [symbol (bits / 4096), symbol (bits / 64 % 64), symbol (bits % 64), '=']
  | first :: second :: third :: rest =>
      let bits := (first.toNat * 256 + second.toNat) * 256 + third.toNat
      symbol (bits / 262144) :: symbol (bits / 4096 % 64) :: symbol (bits / 64 % 64)
        :: symbol (bits % 64) :: encodeList rest

def encode (bytes : ByteArray) : String := String.ofList (encodeList bytes.toList)

/-- The bytes of a text in groups of four; the bits that a last group has to
spare are zero. -/
def decodeList : List Char → Option (List UInt8)
  | [] => some []
  | [first, second, '=', '='] => do
      let first ← sextet? first
      let second ← sextet? second
      let bits := first * 64 + second
      if bits % 16 = 0 then pure [UInt8.ofNat (bits / 16)] else none
  | [first, second, third, '='] => do
      let first ← sextet? first
      let second ← sextet? second
      let third ← sextet? third
      let bits := (first * 64 + second) * 64 + third
      if bits % 4 = 0 then pure [UInt8.ofNat (bits / 1024), UInt8.ofNat (bits / 4 % 256)]
      else none
  | first :: second :: third :: fourth :: rest => do
      let first ← sextet? first
      let second ← sextet? second
      let third ← sextet? third
      let fourth ← sextet? fourth
      let bits := ((first * 64 + second) * 64 + third) * 64 + fourth
      let bytes ← decodeList rest
      pure (UInt8.ofNat (bits / 65536) :: UInt8.ofNat (bits / 256 % 256)
        :: UInt8.ofNat (bits % 256) :: bytes)
  | _ => none

theorem sextet?_symbol {sextet : Nat} (small : sextet < 64) :
    sextet? (symbol sextet) = some sextet := by
  have all : ∀ sextet : Fin 64, sextet? (symbol sextet) = some sextet.val := by decide
  exact all ⟨sextet, small⟩

theorem symbol_ne_filler {sextet : Nat} (small : sextet < 64) : symbol sextet ≠ '=' := by
  have all : ∀ sextet : Fin 64, symbol sextet ≠ '=' := by decide
  exact all ⟨sextet, small⟩

theorem decodeList_encodeList (bytes : List UInt8) :
    decodeList (encodeList bytes) = some bytes := by
  induction bytes using encodeList.induct with
  | case1 => rfl
  | case2 first =>
      have bound := first.toNat_lt
      have whole : first.toNat * 16 / 64 * 64 + first.toNat * 16 % 64 = first.toNat * 16 := by
        omega
      simp [encodeList, decodeList, sextet?_symbol (show first.toNat * 16 / 64 < 64 by omega),
        sextet?_symbol (show first.toNat * 16 % 64 < 64 by omega), whole]
  | case3 first second =>
      have firstBound := first.toNat_lt
      have secondBound := second.toNat_lt
      generalize bitsName : (first.toNat * 256 + second.toNat) * 4 = bits
      have small : bits < 262144 := by omega
      have whole : (bits / 4096 * 64 + bits / 64 % 64) * 64 + bits % 64 = bits := by omega
      have high : bits / 1024 = first.toNat := by omega
      have low : bits / 4 % 256 = second.toNat := by omega
      have spare : bits % 4 = 0 := by omega
      have different : symbol (bits % 64) ≠ '=' := symbol_ne_filler (by omega)
      simp [encodeList, bitsName, decodeList,
        sextet?_symbol (show bits / 4096 < 64 by omega),
        sextet?_symbol (show bits / 64 % 64 < 64 by omega),
        sextet?_symbol (show bits % 64 < 64 by omega), whole, high, low, spare]
  | case4 first second third rest induction =>
      have firstBound := first.toNat_lt
      have secondBound := second.toNat_lt
      have thirdBound := third.toNat_lt
      generalize bitsName : (first.toNat * 256 + second.toNat) * 256 + third.toNat = bits
        at induction
      have small : bits < 16777216 := by omega
      have whole : ((bits / 262144 * 64 + bits / 4096 % 64) * 64 + bits / 64 % 64) * 64
          + bits % 64 = bits := by omega
      have high : bits / 65536 = first.toNat := by omega
      have middle : bits / 256 % 256 = second.toNat := by omega
      have low : bits % 256 = third.toNat := by omega
      have different : symbol (bits % 64) ≠ '=' := symbol_ne_filler (by omega)
      simp [encodeList, bitsName, decodeList, different, induction,
        sextet?_symbol (show bits / 262144 < 64 by omega),
        sextet?_symbol (show bits / 4096 % 64 < 64 by omega),
        sextet?_symbol (show bits / 64 % 64 < 64 by omega),
        sextet?_symbol (show bits % 64 < 64 by omega), whole, high, middle, low]

end Assay.Text.Base64
