/-!
# Binary floating-point numbers of 64 bits

A number is its bit pattern: a sign bit, eleven bits of exponent and
fifty-two bits of fraction.  A finite number is `significand * 2 ^ scale`, and
every operation computes the exact quotient of two naturals and rounds it once,
to the nearest number and to the even one on a tie.
-/

namespace Assay

structure Binary64 where
  bits : UInt64
deriving DecidableEq, Inhabited

namespace Binary64

/-- The patterns of one exponent: two to the power of fifty-two. -/
def fractionCount : Nat := 4503599627370496

/-- The weight of the sign bit: two to the power of sixty-three. -/
def signWeight : Nat := 9223372036854775808

/-- The bit pattern of positive infinity.  Patterns above it, the sign left
out, are not numbers. -/
def infinityMagnitude : Nat := 2047 * fractionCount

def compose (negative : Bool) (magnitude : Nat) : Binary64 :=
  ⟨UInt64.ofNat (magnitude + if negative then signWeight else 0)⟩

/-- The bit pattern without its sign; it orders the non-negative numbers. -/
def magnitude (number : Binary64) : Nat := number.bits.toNat % signWeight

def isNegative (number : Binary64) : Bool := signWeight ≤ number.bits.toNat

def isFinite (number : Binary64) : Bool := number.magnitude < infinityMagnitude

def isNaN (number : Binary64) : Bool := infinityMagnitude < number.magnitude

def isZero (number : Binary64) : Bool := number.magnitude == 0

def exponentField (number : Binary64) : Nat := number.magnitude / fractionCount

def significand (number : Binary64) : Nat :=
  if number.exponentField = 0 then number.magnitude % fractionCount
  else fractionCount + number.magnitude % fractionCount

/-- The power of two that the significand counts. -/
def scale (number : Binary64) : Int :=
  (max number.exponentField 1 : Nat) - 1075

def nan : Binary64 := compose false (infinityMagnitude + fractionCount / 2)

def infinity (negative : Bool) : Binary64 := compose negative infinityMagnitude

def zero (negative : Bool) : Binary64 := compose negative 0

/-- The natural number nearest to a quotient, the even one on a tie. -/
def roundQuotient (numerator denominator : Nat) : Nat :=
  let quotient := numerator / denominator
  let twice := 2 * (numerator % denominator)
  if twice < denominator then quotient
  else if denominator < twice then quotient + 1
  else if quotient % 2 = 0 then quotient
  else quotient + 1

/-- The power of a base is the quotient of this number and of the one for the
opposite exponent. -/
def powerUp (base : Nat) (exponent : Int) : Nat := Nat.pow base exponent.toNat

/-- The power of two to which a positive quotient is rounded: the significand
gets fifty-three bits, unless the smallest power is reached before. -/
def gridScale (numerator denominator : Nat) : Int :=
  let guess : Int := (Nat.log2 numerator : Int) - Nat.log2 denominator - 53
  let wide :=
    decide (2 * fractionCount * denominator * powerUp 2 guess ≤ numerator * powerUp 2 (-guess))
  max (if wide then guess + 1 else guess) (-1074)

/-- The pattern of the number nearest to a quotient; what is too large is
infinity. -/
def magnitudeOfQuotient (numerator denominator : Nat) : Nat :=
  if numerator = 0 then 0
  else
    let grid := gridScale numerator denominator
    let rounded :=
      roundQuotient (numerator * powerUp 2 (-grid)) (denominator * powerUp 2 grid)
    min ((grid + 1074).toNat * fractionCount + rounded) infinityMagnitude

def ofQuotient (negative : Bool) (numerator denominator : Nat) : Binary64 :=
  compose negative (magnitudeOfQuotient numerator denominator)

def ofNat (number : Nat) : Binary64 := ofQuotient false number 1

def ofInt (number : Int) : Binary64 := ofQuotient (decide (number < 0)) number.natAbs 1

def neg (number : Binary64) : Binary64 := compose (!number.isNegative) number.magnitude

/-- A finite number without its sign, as an exact quotient. -/
def numerator (number : Binary64) : Nat := number.significand * powerUp 2 number.scale

def denominator (number : Binary64) : Nat := powerUp 2 (-number.scale)

/-- The product of two finite numbers. -/
def mul (left right : Binary64) : Binary64 :=
  ofQuotient (left.isNegative != right.isNegative)
    (left.numerator * right.numerator) (left.denominator * right.denominator)

/-- The quotient of two finite numbers, the second one not zero. -/
def div (left right : Binary64) : Binary64 :=
  ofQuotient (left.isNegative != right.isNegative)
    (left.numerator * right.denominator) (left.denominator * right.numerator)

/-- Numbers compare as their keys do; the two zeros share one. -/
def orderKey (number : Binary64) : Int :=
  if number.isNegative then -(number.magnitude : Int) else number.magnitude

/-- Equality of numbers: the zeros are equal, what is not a number is equal to
nothing. -/
def same (left right : Binary64) : Bool :=
  !left.isNaN && !right.isNaN && left.orderKey == right.orderKey

def less (left right : Binary64) : Bool :=
  !left.isNaN && !right.isNaN && decide (left.orderKey < right.orderKey)

theorem same_symm (left right : Binary64) : same left right = same right left := by
  unfold same
  rw [BEq.comm (a := left.orderKey)]
  cases left.isNaN <;> cases right.isNaN <;> simp

@[simp] theorem same_refl {number : Binary64} (ordinary : number.isNaN = false) :
    same number number = true := by
  simp [same, ordinary]

theorem same_trans {left middle right : Binary64}
    (first : same left middle = true) (second : same middle right = true) :
    same left right = true := by
  simp only [same, Bool.and_eq_true, Bool.not_eq_true', beq_iff_eq] at first second ⊢
  exact ⟨⟨first.1.1, second.1.2⟩, first.2.trans second.2⟩

end Binary64

end Assay
