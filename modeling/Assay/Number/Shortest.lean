import Assay.Number.Binary64

/-!
# Shortest decimals

The text of a binary number has the fewest decimal digits that still read back
as that number, and among those the ones nearest to it.  The search compares
exact naturals: for one, two, up to seventeen digits it tests the two points of
the decimal grid next to the number against the interval of reals that round
to it.
-/

namespace Assay

/-- The number `digits * 10 ^ exponent`. -/
structure Decimal where
  digits : Nat
  exponent : Int
deriving DecidableEq, Repr

namespace Binary64

/-- The ends of the interval of reals that round to a number, counted in
quarters of its unit.  Below a power of two the numbers lie closer. -/
def lowerQuarters (number : Binary64) : Nat :=
  if number.significand = fractionCount ∧ 1 < number.exponentField then
    4 * number.significand - 1
  else 4 * number.significand - 2

def upperQuarters (number : Binary64) : Nat := 4 * number.significand + 2

/-- A count of quarter units, on the common grid with powers of ten. -/
def quartersOnGrid (number : Binary64) (exponent : Int) (quarters : Nat) : Nat :=
  quarters * powerUp 2 (number.scale - 2) * powerUp 10 (-exponent)

/-- One step of the decimal grid, on the common grid with quarter units. -/
def stepOnGrid (number : Binary64) (exponent : Int) : Nat :=
  powerUp 10 exponent * powerUp 2 (2 - number.scale)

/-- Whether `digits * 10 ^ exponent` rounds to the number, its sign left out.
The ends of the interval belong to it exactly for an even significand. -/
def readsBack (number : Binary64) (exponent : Int) (digits : Nat) : Bool :=
  let point := digits * number.stepOnGrid exponent
  let low := number.quartersOnGrid exponent number.lowerQuarters
  let high := number.quartersOnGrid exponent number.upperQuarters
  if number.significand % 2 = 0 then low ≤ point && point ≤ high
  else low < point && point < high

/-- The point of a decimal grid that reads back and lies nearest, if any. -/
def nearestOnGrid? (number : Binary64) (exponent : Int) : Option Nat :=
  let step := number.stepOnGrid exponent
  let exact := number.quartersOnGrid exponent (4 * number.significand)
  let below := exact / step
  let belowFits := number.readsBack exponent below
  let aboveFits := number.readsBack exponent (below + 1)
  if belowFits && aboveFits then some (roundQuotient exact step)
  else if belowFits then some below
  else if aboveFits then some (below + 1)
  else none

def decimalLength (number : Nat) : Nat := (Nat.toDigits 10 number).length

/-- The power of ten of the first digit of a positive number. -/
def leadingExponent (number : Binary64) : Int :=
  let numerator := number.numerator
  let denominator := number.denominator
  let guess : Int := (decimalLength numerator : Int) - decimalLength denominator
  if denominator * powerUp 10 guess ≤ numerator * powerUp 10 (-guess) then guess
  else guess - 1

/-- Seventeen digits always tell a number from its neighbours. -/
def digitCounts : List Nat := (List.range 17).map (· + 1)

/-- The shortest decimal of a finite number other than zero, its sign left
out. -/
def shortest (number : Binary64) : Decimal :=
  let leading := number.leadingExponent
  let found := digitCounts.findSome? fun (count : Nat) =>
    let exponent : Int := leading + 1 - count
    (number.nearestOnGrid? exponent).map fun digits => Decimal.mk digits exponent
  found.getD ⟨number.significand, number.scale⟩

end Binary64

end Assay
