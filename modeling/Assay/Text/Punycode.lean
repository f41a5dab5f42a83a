/-!
# Punycode

A text in any script is written with letters, digits and hyphens: first its own
letters, digits and hyphens, then how the others are to be put in between.  Each
insertion is a number that counts the places and code points passed over since
the insertion before it.  The digits of a number are letters and digits again,
the lowest first, and a digit below its threshold is the last one.
-/

namespace Assay.Text.Punycode

/-! ## Digits -/

def digitCount : Nat := 36

/-- Twenty-six letters, then ten digits. -/
def digitText (digit : Nat) : Char :=
  if digit < 26 then Char.ofNat ('a'.toNat + digit) else Char.ofNat ('0'.toNat + (digit - 26))

def digitValue? (character : Char) : Option Nat :=
  if character.isLower then some (character.toNat - 'a'.toNat)
  else if character.isUpper then some (character.toNat - 'A'.toNat)
  else if character.isDigit then some (character.toNat - '0'.toNat + 26)
  else none

/-- The threshold of a digit: at least one and at most twenty-six. -/
def threshold (position bias : Nat) : Nat :=
  if position ≤ bias then 1 else if bias + 26 ≤ position then 26 else position - bias

theorem threshold_pos (position bias : Nat) : 0 < threshold position bias := by
  unfold threshold
  split
  · omega
  · split <;> omega

/-- How often a number can be divided before it is small, in digits, and what is
left of it. -/
def shrink (number position : Nat) : Nat × Nat :=
  if 455 < number then shrink (number / 35) (position + digitCount) else (number, position)
termination_by number
decreasing_by omega

/-- The bias after a number, so that the next one, which is likely to be as large,
takes few digits. -/
def adapt (number count : Nat) (isFirst : Bool) : Nat :=
  let damped := if isFirst then number / 700 else number / 2
  let (rest, position) := shrink (damped + damped / count) 0
  position + digitCount * rest / (rest + 38)

def firstBias : Nat := 72

def firstCode : Nat := 0x80

/-! ## Writing -/

def writeNumber (bias position number : Nat) : List Char :=
  let least := threshold position bias
  if number < least then [digitText number]
  else
    digitText (least + (number - least) % (digitCount - least))
      :: writeNumber bias (position + digitCount) ((number - least) / (digitCount - least))
termination_by number
decreasing_by
  have positive := threshold_pos position bias
  exact Nat.lt_of_le_of_lt (Nat.div_le_self _ _) (by omega)

structure Writing where
  output : List Char
  /-- The places passed over since the last insertion. -/
  passed : Nat
  bias : Nat
  /-- The characters that are written. -/
  count : Nat

/-- Pass a place, or insert the code point there. -/
def Writing.step (basicCount code : Nat) (writing : Writing) (character : Char) : Writing :=
  if character.toNat < code then { writing with passed := writing.passed + 1 }
  else if character.toNat = code then
    ⟨writing.output ++ writeNumber writing.bias digitCount writing.passed, 0,
      adapt writing.passed (writing.count + 1) (writing.count = basicCount), writing.count + 1⟩
  else writing

/-- Insert code points in rising order; the first one that is left to pass over is
given. -/
def writeCodes (characters : List Char) (basicCount : Nat) :
    List Nat → Nat → Writing → Writing
  | [], _, writing => writing
  | code :: codes, next, writing =>
      let skipped :=
        { writing with passed := writing.passed + (code - next) * (writing.count + 1) }
      let inserted := characters.foldl (Writing.step basicCount code) skipped
      writeCodes characters basicCount codes (code + 1)
        { inserted with passed := inserted.passed + 1 }

def isBasic (character : Char) : Bool := character.toNat < firstCode

def encode (characters : List Char) : List Char :=
  let basic := characters.filter isBasic
  let codes := (characters.filter fun character => !isBasic character).map Char.toNat
  let rising := (codes.mergeSort fun first second => first ≤ second).eraseDups
  basic ++ (if basic.isEmpty then [] else ['-'])
    ++ (writeCodes characters basic.length rising firstCode
      ⟨[], 0, firstBias, basic.length⟩).output

/-! ## Reading -/

/-- The largest number that is read. -/
def largestNumber : Nat := 4294967295

/-- The sum of a total and a number, and what follows the number. -/
def readNumber (bias : Nat) : Nat → Nat → Nat → List Char → Option (Nat × List Char)
  | _, _, _, [] => none
  | position, weight, total, character :: rest =>
      match digitValue? character with
      | none => none
      | some digit =>
          let sum := total + digit * weight
          let least := threshold position bias
          if largestNumber < sum then none
          else if digit < least then some (sum, rest)
          else if largestNumber < weight * (digitCount - least) then none
          else readNumber bias (position + digitCount) (weight * (digitCount - least)) sum rest

theorem length_lt_of_readNumber {bias : Nat} {characters rest : List Char} {position weight : Nat}
    {total sum : Nat}
    (found : readNumber bias position weight total characters = some (sum, rest)) :
    rest.length < characters.length := by
  induction characters generalizing position weight total with
  | nil => simp [readNumber] at found
  | cons character later induction =>
      rw [readNumber] at found
      split at found
      · simp at found
      · dsimp only at found
        split at found
        · simp at found
        · split at found
          · simp only [Option.some.injEq, Prod.mk.injEq] at found
            rw [← found.2]
            simp
          · split at found
            · simp at found
            · have shorter := induction found
              rw [List.length_cons]
              omega

def characterOf? (code : Nat) : Option Char :=
  if code.isValidChar then some (Char.ofNat code) else none

/-- Carry out the insertions that are left. -/
def insertFrom (bias code total : Nat) (text : List Char) : List Char → Option (List Char)
  | [] => some text
  | character :: rest =>
      match _ : readNumber bias digitCount 1 total (character :: rest) with
      | none => none
      | some (sum, later) =>
          let count := text.length + 1
          let next := code + sum / count
          match characterOf? next with
          | none => none
          | some inserted =>
              insertFrom (adapt (sum - total) count (total = 0)) next (sum % count + 1)
                (text.insertIdx (sum % count) inserted) later
termination_by characters => characters.length
decreasing_by exact length_lt_of_readNumber (by assumption)

/-- The part in front of the last hyphen, and the part behind it.  A hyphen in
front of everything else has nothing to set apart, and counts as a digit. -/
def splitBasic (characters : List Char) : List Char × List Char :=
  let numbers := (characters.reverse.takeWhile (· != '-')).reverse
  let basic := characters.take (characters.length - numbers.length - 1)
  if basic.isEmpty then ([], characters) else (basic, numbers)

def decode (characters : List Char) : Option (List Char) :=
  let (basic, numbers) := splitBasic characters
  if basic.all isBasic then insertFrom firstBias firstCode 0 basic numbers else none

end Assay.Text.Punycode
