import Assay.Json.Value

/-!
# Number literals

The grammar of a literal and the number it stands for.  A literal with neither
a point nor an exponent that fits 64 bits is an integer.  Any other literal is
binary: its first digits, as many as fit an unsigned integer of 64 bits, are
rounded to a binary number, which is then multiplied or divided by the power
of ten that the rest of the literal asks for.  Both steps round.
-/

namespace Assay.Json

/-- The parts of a literal.  The digits of the whole part are never empty, and
neither are those of a fraction or exponent that is there. -/
structure Numeral where
  negative : Bool
  whole : List Char
  fraction : Option (List Char)
  /-- The sign of the exponent, true for a negative one, and its digits. -/
  exponent : Option (Bool × List Char)

namespace Numeral

/-- The number that decimal digits stand for. -/
def digitsValue (digits : List Char) : Nat := Nat.ofDigitChars 10 digits 0

/-- Where the reading of a literal stops. -/
inductive Scan where
  | literal (numeral : Numeral) (rest : List Char)
  /-- The text ends within the literal. -/
  | cut
  /-- The text goes on as no literal does. -/
  | broken

/-- Whole digits: a single zero, or digits that do not begin with one. -/
def scanWhole : List Char → Option (List Char × List Char)
  | [] => none
  | '0' :: rest =>
      if (rest.head?.map Char.isDigit).getD false then none else some (['0'], rest)
  | first :: rest =>
      if first.isDigit then some (first :: rest.takeWhile Char.isDigit, rest.dropWhile Char.isDigit)
      else none

/-- At least one digit, which a fraction and an exponent need. -/
def scanDigits : List Char → Option (List Char × List Char)
  | [] => none
  | first :: rest =>
      if first.isDigit then some (first :: rest.takeWhile Char.isDigit, rest.dropWhile Char.isDigit)
      else none

def scanSign : List Char → Bool × List Char
  | '-' :: rest => (true, rest)
  | '+' :: rest => (false, rest)
  | rest => (false, rest)

/-- A part of a literal that must follow but does not. -/
def missing (rest : List Char) : Scan := if rest.isEmpty then .cut else .broken

def scanExponent (negative : Bool) (whole : List Char) (fraction : Option (List Char)) :
    List Char → Scan
  | [] => .literal ⟨negative, whole, fraction, none⟩ []
  | mark :: rest =>
      if mark = 'e' ∨ mark = 'E' then
        let (exponentNegative, digits) := scanSign rest
        match scanDigits digits with
        | some (digits, rest) =>
            .literal ⟨negative, whole, fraction, some (exponentNegative, digits)⟩ rest
        | none => missing digits
      else .literal ⟨negative, whole, fraction, none⟩ (mark :: rest)

/-- Read a literal after its sign. -/
def scanUnsigned (negative : Bool) (characters : List Char) : Scan :=
  match scanWhole characters with
  | none => missing characters
  | some (whole, '.' :: rest) =>
      match scanDigits rest with
      | some (fraction, rest) => scanExponent negative whole (some fraction) rest
      | none => missing rest
  | some (whole, rest) => scanExponent negative whole none rest

def scan : List Char → Scan
  | '-' :: rest => scanUnsigned true rest
  | characters => scanUnsigned false characters

/-- Take digits into a significand as long as it fits 64 bits. -/
def absorb (significand : Nat) : List Char → Nat × List Char
  | [] => (significand, [])
  | digit :: rest =>
      let next := 10 * significand + (digit.toNat - '0'.toNat)
      if next < UInt64.size then absorb next rest else (significand, digit :: rest)

def powerOfTen (exponent : Nat) : Binary64 := .ofNat (Nat.pow 10 exponent)

/-- The power of ten is applied in steps of at most 308. -/
def applyExponent : Nat → Binary64 → Int → Option Binary64
  | 0, _, _ => none
  | steps + 1, number, exponent =>
      if 308 < exponent then (if number.isZero then some number else none)
      else if 0 ≤ exponent then
        let scaled := number.mul (powerOfTen exponent.toNat)
        if scaled.isFinite then some scaled else none
      else if -308 ≤ exponent then some (number.div (powerOfTen (-exponent).toNat))
      else if number.isZero then some number
      else applyExponent steps (number.div (powerOfTen 308)) (exponent + 308)

/-- The binary number `significand * 10 ^ exponent`; nothing when it is too
large.  Nineteen digits are divided down to zero in four steps. -/
def scaled (negative : Bool) (significand : Nat) (exponent : Int) : Option Binary64 :=
  (applyExponent 4 (.ofNat significand) exponent).map fun number =>
    if negative then number.neg else number

def binaryValue (numeral : Numeral) : Option Binary64 :=
  let (wholePart, wholeRest) := absorb 0 numeral.whole
  let fraction := numeral.fraction.getD []
  let (significand, fractionRest) := absorb wholePart fraction
  let start : Int := (wholeRest.length : Int) - (fraction.length - fractionRest.length : Nat)
  match numeral.exponent with
  | none => scaled numeral.negative significand start
  | some (exponentNegative, digits) =>
      let size := digitsValue digits
      if size < 2147483648 then
        scaled numeral.negative significand
          (if exponentNegative then start - size else start + size)
      else if exponentNegative || significand == 0 then some (.zero numeral.negative)
      else none

/-- The integer that a literal without point and exponent stands for.  Negative
zero is no integer. -/
def integerValue? (numeral : Numeral) : Option Number :=
  if numeral.fraction.isNone && numeral.exponent.isNone then
    let size := digitsValue numeral.whole
    if numeral.negative then
      if size = 0 then none else Number.ofInt? (-(size : Int))
    else Number.ofInt? size
  else none

/-- The number of a literal; nothing when it is too large for any. -/
def value? (numeral : Numeral) : Option Number :=
  match numeral.integerValue? with
  | some number => some number
  | none => numeral.binaryValue.bind Number.ofBinary?

end Numeral

end Assay.Json
