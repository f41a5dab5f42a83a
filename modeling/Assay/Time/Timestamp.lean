import Assay.Text.Blank
import Assay.Time.Instant

/-!
# Timestamps

The text of an instant: date, time of day and offset from universal time.  It
is written in universal time with as many groups of three fraction digits as
it needs.  The reader allows blanks between the parts and a blank in place of
the letter between date and time.
-/

namespace Assay

inductive TimestampError where
  | outOfRange
  | impossible
  | invalid
  | tooShort
  | tooLong
deriving DecidableEq

def TimestampError.message : TimestampError → String
  | .outOfRange => "input is out of range"
  | .impossible => "no possible date and time matching input"
  | .invalid => "input contains invalid characters"
  | .tooShort => "premature end of input"
  | .tooLong => "trailing input"

namespace Timestamp

/-! ## Writing -/

/-- Decimal digits, with zeros in front up to a width. -/
def padded (width number : Nat) : List Char :=
  let digits := Nat.toDigits 10 number
  List.replicate (width - digits.length) '0' ++ digits

/-- Years outside four digits show their sign. -/
def yearText (year : Int) : List Char :=
  if 0 ≤ year ∧ year ≤ 9999 then padded 4 year.toNat
  else (if year < 0 then '-' else '+') :: padded 4 year.natAbs

def fractionText (nano : Nat) : List Char :=
  if nano = 0 then []
  else if nano % 1000000 = 0 then '.' :: padded 3 (nano / 1000000)
  else if nano % 1000 = 0 then '.' :: padded 6 (nano / 1000)
  else '.' :: padded 9 nano

def print (instant : Instant) : List Char :=
  let date := CivilDate.ofDays instant.day
  let leap := instant.nano / 1000000000
  yearText date.year ++ '-' :: padded 2 date.month ++ '-' :: padded 2 date.day
    ++ 'T' :: padded 2 (instant.second / 3600)
    ++ ':' :: padded 2 (instant.second / 60 % 60)
    ++ ':' :: padded 2 (instant.second % 60 + leap)
    ++ fractionText (instant.nano % 1000000000) ++ ['Z']

def render (instant : Instant) : String := String.ofList (print instant)

/-! ## Reading -/

def value (digits : List Char) : Nat := Nat.ofDigitChars 10 digits 0

def skipBlank (characters : List Char) : List Char := characters.dropWhile Text.isBlank

/-- The digits at the start, at most so many. -/
def digitRun (most : Nat) (characters : List Char) : List Char :=
  (characters.take most).takeWhile Char.isDigit

/-- A number of one digit at least, within 64 bits with sign. -/
def number (most : Nat) (characters : List Char) : Except TimestampError (Nat × List Char) :=
  match characters with
  | [] => .error .tooShort
  | _ :: _ =>
      let digits := digitRun most characters
      if digits.isEmpty then .error .invalid
      else if 9223372036854775808 ≤ value digits then .error .outOfRange
      else .ok (value digits, characters.drop digits.length)

/-- A number within bounds, after blanks. -/
def field (most least greatest : Nat) (characters : List Char) :
    Except TimestampError (Nat × List Char) := do
  let (content, rest) ← number most (skipBlank characters)
  if least ≤ content ∧ content ≤ greatest then pure (content, rest) else throw .outOfRange

/-- A year has four digits at most, unless a sign is in front.  It fits 32 bits. -/
def year (characters : List Char) : Except TimestampError (Int × List Char) := do
  let (content, rest) ←
    match skipBlank characters with
    | '-' :: rest =>
        let (content, rest) ← number rest.length rest
        pure (-(content : Int), rest)
    | '+' :: rest =>
        let (content, rest) ← number rest.length rest
        pure ((content : Int), rest)
    | rest =>
        let (content, rest) ← number 4 rest
        pure ((content : Int), rest)
  if -2147483648 ≤ content ∧ content < 2147483648 then pure (content, rest)
  else throw .outOfRange

def literal (expected : Char) (characters : List Char) : Except TimestampError (Unit × List Char) :=
  match skipBlank characters with
  | [] => .error .tooShort
  | character :: rest => if character = expected then .ok ((), rest) else .error .invalid

/-- The letter or blank between date and time. -/
def dateMark (characters : List Char) : Except TimestampError (Unit × List Char) :=
  match characters with
  | [] => .error .tooShort
  | character :: rest =>
      if character = 't' ∨ character = 'T' ∨ character = ' ' then .ok ((), rest)
      else .error .invalid

/-- Nanoseconds after a point; digits from the tenth on are dropped. -/
def fraction (characters : List Char) : Except TimestampError (Nat × List Char) :=
  match characters with
  | '.' :: rest => do
      let (_, _) ← number 9 rest
      let digits := digitRun 9 rest
      let nano := value digits * Nat.pow 10 (9 - digits.length)
      pure (nano, (rest.drop digits.length).dropWhile Char.isDigit)
  | rest => .ok (0, rest)

/-- Two digits; what is shorter than two bytes ends too early. -/
def digitPair (characters : List Char) : Except TimestampError (Char × Char × List Char) :=
  match characters with
  | [] => .error .tooShort
  | [single] => .error (if single.utf8Size < 2 then .tooShort else .invalid)
  | first :: second :: rest => .ok (first, second, rest)

def isSeparator (character : Char) : Bool := character == ':' || Text.isBlank character

def offsetSign (characters : List Char) : Except TimestampError (Bool × List Char) :=
  match characters with
  | [] => .error .tooShort
  | '+' :: rest => .ok (false, rest)
  | '-' :: rest => .ok (true, rest)
  | '\u2212' :: rest => .ok (true, rest)
  | _ :: _ => .error .invalid

def signedOffset (characters : List Char) : Except TimestampError (Int × List Char) := do
  let (negative, rest) ← offsetSign characters
  let (first, second, rest) ← digitPair rest
  if !(first.isDigit && second.isDigit) then throw .invalid
  let hours := value [first, second]
  let (third, fourth, rest) ← digitPair (rest.dropWhile isSeparator)
  if !(third.isDigit && fourth.isDigit) then throw .invalid
  let minutes := value [third, fourth]
  if 60 ≤ minutes then throw .outOfRange
  let seconds : Int := hours * 3600 + minutes * 60
  pure (if negative then -seconds else seconds, rest)

/-- The distance from universal time in seconds. -/
def offset (characters : List Char) : Except TimestampError (Int × List Char) :=
  match characters with
  | 'Z' :: rest => .ok (0, rest)
  | 'z' :: rest => .ok (0, rest)
  | first :: second :: third :: rest =>
      if first.toLower = 'u' ∧ second.toLower = 't' ∧ third.toLower = 'c' then .ok (0, rest)
      else signedOffset characters
  | _ => signedOffset characters

def read (characters : List Char) : Except TimestampError Instant := do
  let (year, rest) ← year characters
  let (_, rest) ← literal '-' rest
  let (month, rest) ← field 2 1 12 rest
  let (_, rest) ← literal '-' rest
  let (day, rest) ← field 2 1 31 rest
  let (_, rest) ← dateMark rest
  let (hour, rest) ← field 2 0 23 rest
  let (_, rest) ← literal ':' rest
  let (minute, rest) ← field 2 0 59 rest
  let (_, rest) ← literal ':' rest
  let (second, rest) ← field 2 0 60 rest
  let (nano, rest) ← fraction rest
  let (offset, rest) ← offset (skipBlank rest)
  if !(skipBlank rest).isEmpty then throw .tooLong
  let date : CivilDate := ⟨year, month, day⟩
  if !date.isValid then throw .outOfRange
  if ¬ offset.natAbs < Instant.secondsPerDay then throw .outOfRange
  let leap := if second = 60 then 1 else 0
  let secondOfDay := hour * 3600 + minute * 60 + (second - leap)
  match Instant.ofLocal? date secondOfDay (nano + leap * 1000000000) offset with
  | some instant => pure instant
  | none => throw .impossible

def parse (text : String) : Except TimestampError Instant := read text.toList

end Timestamp

end Assay
