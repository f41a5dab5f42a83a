import Assay.Http.Host.Address4

/-!
# Addresses of eight groups

An address has eight groups of two bytes, which are written in hexadecimal with
colons between them.  Two colons in a row stand for groups of zeros that are
left out, and the last two groups may be written as four decimal numbers.
-/

namespace Assay

structure Address6 where
  groups : List Nat
deriving DecidableEq

namespace Address6

/-! ## Reading -/

/-- Split at the first two colons in a row. -/
def splitGap : List Char → List Char × Option (List Char)
  | ':' :: ':' :: rest => ([], some rest)
  | character :: rest =>
      let (front, back) := splitGap rest
      (character :: front, back)
  | [] => ([], none)

def readGroup? (part : List Char) : Option Nat :=
  if part.isEmpty ∨ 4 < part.length then none else Address4.digitsValue? 16 part

/-- A decimal number that fits into a byte, written without zeros in front. -/
def readByte? (part : List Char) : Option Nat := do
  if part.isEmpty ∨ (1 < part.length ∧ part.head? = some '0') then none
  let value ← Address4.digitsValue? 10 part
  if value < 256 then some value else none

/-- Two groups that are written as four bytes. -/
def readBytes? (part : List Char) : Option (List Nat) := do
  match ← (Text.pieces '.' part).mapM readByte? with
  | [first, second, third, fourth] => some [first * 256 + second, third * 256 + fourth]
  | _ => none

/-- Groups with colons between them.  Only the last ones may be bytes. -/
def readParts? (withBytes : Bool) : List (List Char) → Option (List Nat)
  | [] => some []
  | [last] =>
      match readGroup? last with
      | some group => some [group]
      | none => if withBytes then readBytes? last else none
  | part :: rest => do
      let group ← readGroup? part
      let groups ← readParts? withBytes rest
      pure (group :: groups)

def readGroups? (withBytes : Bool) (characters : List Char) : Option (List Nat) :=
  if characters.isEmpty then some [] else readParts? withBytes (Text.pieces ':' characters)

def parse (characters : List Char) : Option Address6 :=
  match splitGap characters with
  | (whole, none) => do
      let groups ← readGroups? true whole
      if groups.length = 8 then some ⟨groups⟩ else none
  | (front, some back) => do
      let first ← readGroups? false front
      let last ← readGroups? true back
      let missing := 8 - (first.length + last.length)
      if missing = 0 then none
      else some ⟨first ++ List.replicate missing 0 ++ last⟩

/-! ## Writing -/

/-- The zeros that groups start with. -/
def zerosInFront (groups : List Nat) : Nat := (groups.takeWhile (· == 0)).length

/-- Where the longest run of zeros begins, the first of equal ones, and its
length. -/
def longestGap (groups : List Nat) : Nat × Nat :=
  (List.range groups.length).foldl (fun best start =>
    let length := zerosInFront (groups.drop start)
    if best.2 < length then (start, length) else best) (0, 0)

def groupsText (groups : List Nat) : String :=
  ":".intercalate (groups.map fun group => String.ofList (Nat.toDigits 16 group))

/-- The groups without the longest run of zeros, unless it is a single zero. -/
def text (address : Address6) : String :=
  let (start, length) := longestGap address.groups
  if length < 2 then groupsText address.groups
  else
    groupsText (address.groups.take start) ++ "::"
      ++ groupsText (address.groups.drop (start + length))

end Address6

end Assay
