import Assay.Number.Binary64

/-!
# JSON values

A number is an integer of 64 bits, signed or unsigned, or a finite binary
number; the two kinds are never equal to each other.  The members of a
free-form object are kept in ascending order of their names, so that two
objects with the same members are the same list.
-/

namespace Assay.Json

/-- The integers that a number can hold: those of 64 bits with or without sign. -/
def fitsInteger (value : Int) : Prop :=
  -9223372036854775808 ≤ value ∧ value < 18446744073709551616

instance (value : Int) : Decidable (fitsInteger value) := by
  unfold fitsInteger
  infer_instance

inductive Number where
  | integer (value : Int) (fits : fitsInteger value)
  | binary (value : Binary64) (finite : value.isFinite = true)
deriving DecidableEq

inductive Value where
  | null
  | bool (value : Bool)
  | number (value : Number)
  | string (value : String)
  | array (items : List Value)
  | object (members : List (String × Value))
deriving Inhabited

namespace Number

def ofInt? (value : Int) : Option Number :=
  if fits : fitsInteger value then some (.integer value fits) else none

def ofBinary? (value : Binary64) : Option Number :=
  if finite : value.isFinite = true then some (.binary value finite) else none

def ofUInt32 (value : UInt32) : Number :=
  .integer value.toNat (by
    have bound := value.toNat_lt
    unfold fitsInteger
    omega)

/-- The number as an integer of 64 bits with sign. -/
def toInt64? : Number → Option Int
  | .integer value _ => if value < 9223372036854775808 then some value else none
  | .binary _ _ => none

/-- The nearest binary number. -/
def toBinary64 : Number → Binary64
  | .integer value _ => .ofInt value
  | .binary value _ => value

/-- Integers are equal as integers, binary numbers as numbers. -/
def same : Number → Number → Bool
  | .integer left _, .integer right _ => left == right
  | .binary left _, .binary right _ => Binary64.same left right
  | _, _ => false

end Number

namespace Value

mutual

/-- Equality of content.  It is finer than equality of texts only in that the
two zeros of binary numbers are equal. -/
def same : Value → Value → Bool
  | .null, .null => true
  | .bool left, .bool right => left == right
  | .number left, .number right => left.same right
  | .string left, .string right => left == right
  | .array left, .array right => sameItems left right
  | .object left, .object right => sameMembers left right
  | _, _ => false

def sameItems : List Value → List Value → Bool
  | [], [] => true
  | left :: lefts, right :: rights => same left right && sameItems lefts rights
  | _, _ => false

def sameMembers : List (String × Value) → List (String × Value) → Bool
  | [], [] => true
  | (leftName, left) :: lefts, (rightName, right) :: rights =>
      leftName == rightName && same left right && sameMembers lefts rights
  | _, _ => false

end

/-- Put a member in its place; a member of the same name is replaced. -/
def insertMember (name : String) (value : Value) :
    List (String × Value) → List (String × Value)
  | [] => [(name, value)]
  | (otherName, other) :: rest =>
      if name < otherName then (name, value) :: (otherName, other) :: rest
      else if name = otherName then (name, value) :: rest
      else (otherName, other) :: insertMember name value rest

/-- The object with these members, of which the last one of each name counts. -/
def ofMembers (members : List (String × Value)) : Value :=
  .object (members.foldl (fun sorted member => insertMember member.1 member.2 sorted) [])

def ofBinary64 (number : Binary64) : Value :=
  match Number.ofBinary? number with
  | some finite => .number finite
  | none => .null

def toInt64? : Value → Option Int
  | .number content => content.toInt64?
  | _ => none

def toBinary64? : Value → Option Binary64
  | .number content => some content.toBinary64
  | _ => none

def toText? : Value → Option String
  | .string text => some text
  | _ => none

def toBool? : Value → Option Bool
  | .bool value => some value
  | _ => none

def isNull : Value → Bool
  | .null => true
  | _ => false

end Value

end Assay.Json
