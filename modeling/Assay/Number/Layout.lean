import Assay.Number.Shortest

/-!
# Layout of decimals

How the digits of a number are laid out: which powers of ten are written
positionally and how the exponent looks in the other case.
-/

namespace Assay

/-- The decisions about the text of a number. -/
structure NumberLayout where
  /-- Least and greatest power of ten of the first digit that is written
  positionally. -/
  leastPlain : Int
  greatestPlain : Int
  exponentMark : Char
  /-- What stands before an exponent that is not negative. -/
  positiveSign : List Char
  /-- What follows the digits of a positional integer. -/
  integerTail : List Char

namespace NumberLayout

def digitsOf (number : Nat) : List Char := Nat.toDigits 10 number

/-- The digits without the zeros at their end, and how many those were. -/
def dropTrailingZeros (digits : List Char) : List Char :=
  (digits.reverse.dropWhile (· == '0')).reverse

def plain (layout : NumberLayout) (digits : List Char) (leading : Int) : List Char :=
  if leading < 0 then
    ['0', '.'] ++ List.replicate (-leading - 1).toNat '0' ++ digits
  else
    let whole := leading.toNat + 1
    if digits.length ≤ whole then
      digits ++ List.replicate (whole - digits.length) '0' ++ layout.integerTail
    else digits.take whole ++ '.' :: digits.drop whole

def scientific (layout : NumberLayout) (digits : List Char) (leading : Int) : List Char :=
  let sign := if leading < 0 then ['-'] else layout.positiveSign
  let mantissa :=
    match digits with
    | [] => []
    | [digit] => [digit]
    | digit :: rest => digit :: '.' :: rest
  mantissa ++ layout.exponentMark :: sign ++ digitsOf leading.natAbs

/-- The text of a positive decimal. -/
def decimal (layout : NumberLayout) (number : Decimal) : List Char :=
  let allDigits := digitsOf number.digits
  let leading := number.exponent + allDigits.length - 1
  let digits := dropTrailingZeros allDigits
  if layout.leastPlain ≤ leading ∧ leading ≤ layout.greatestPlain then
    layout.plain digits leading
  else layout.scientific digits leading

/-- The text of a finite number. -/
def render (layout : NumberLayout) (number : Binary64) : List Char :=
  let sign := if number.isNegative then ['-'] else []
  if number.isZero then sign ++ '0' :: layout.integerTail
  else sign ++ layout.decimal number.shortest

end NumberLayout

end Assay
