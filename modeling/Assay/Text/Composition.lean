import Assay.Text.CombiningClass
import Assay.Text.CompositionTable

/-!
# Composed text

A text is composed when its marks stand in the order of their classes and when
every character that can take the mark behind it has taken it.  The same text
may be written in many ways, but only one of them is composed.
-/

namespace Assay.Text.Composition

/-! ## Syllables of three letters -/

namespace Hangul

def firstSyllable : Nat := 0xAC00

def firstLeading : Nat := 0x1100

def firstVowel : Nat := 0x1161

/-- One before the first trailing consonant: a syllable may have none. -/
def noTrailing : Nat := 0x11A7

def leadingCount : Nat := 19

def vowelCount : Nat := 21

def trailingCount : Nat := 28

def isSyllable (code : Nat) : Bool :=
  firstSyllable ≤ code && code < firstSyllable + leadingCount * vowelCount * trailingCount

/-- The letters of a syllable. -/
def letters (code : Nat) : List Nat :=
  let place := code - firstSyllable
  let trailing := place % trailingCount
  let vowel := place / trailingCount % vowelCount
  let leading := place / trailingCount / vowelCount
  [firstLeading + leading, firstVowel + vowel]
    ++ (if trailing = 0 then [] else [noTrailing + trailing])

/-- A consonant takes a vowel, and a syllable without a trailing consonant takes
one. -/
def join? (first second : Nat) : Option Nat :=
  if firstLeading ≤ first ∧ first < firstLeading + leadingCount
      ∧ firstVowel ≤ second ∧ second < firstVowel + vowelCount then
    some (firstSyllable
      + ((first - firstLeading) * vowelCount + (second - firstVowel)) * trailingCount)
  else if isSyllable first ∧ (first - firstSyllable) % trailingCount = 0
      ∧ noTrailing < second ∧ second < noTrailing + trailingCount then
    some (first + (second - noTrailing))
  else none

end Hangul

/-! ## Taking apart -/

/-- The most steps that it takes to take a character apart. -/
def deepestComposition : Nat := 4

/-- The parts of a code point that are not composed themselves. -/
def partsFrom : Nat → Nat → List Nat
  | 0, code => [code]
  | steps + 1, code =>
      match compositions.lookup code with
      | some (first :: marks) => partsFrom steps first ++ marks
      | _ => [code]

def parts (code : Nat) : List Nat :=
  if Hangul.isSyllable code then Hangul.letters code else partsFrom deepestComposition code

/-- Put a code point in front of text in order, behind the marks of lower classes
that start it. -/
def place (code : Nat) : List Nat → List Nat
  | [] => [code]
  | next :: rest =>
      if combiningClass next ≠ 0 ∧ combiningClass next < combiningClass code then
        next :: place code rest
      else code :: next :: rest

def inOrder (codes : List Nat) : List Nat := codes.foldr place []

/-! ## Putting together -/

def join? (first second : Nat) : Option Nat :=
  (Hangul.join? first second).or
    ((compositions.find? fun entry => entry.2 == [first, second]).map (·.1))

/-- Put a character together with the marks behind it.  Those that it does not
take are kept, and keep it from later marks of their class. -/
def joinFrom (base : Nat) (kept : List Nat) (lastClass : Nat) : List Nat → List Nat
  | [] => base :: kept
  | code :: rest =>
      let value := combiningClass code
      let joined := if kept.isEmpty ∨ lastClass < value then join? base code else none
      match joined with
      | some whole => joinFrom whole kept lastClass rest
      | none =>
          if value = 0 then base :: kept ++ joinFrom code [] 0 rest
          else joinFrom base (kept ++ [code]) value rest

/-- Marks in front of the first character that stands by itself stay alone. -/
def joinAll : List Nat → List Nat
  | [] => []
  | code :: rest =>
      if combiningClass code = 0 then joinFrom code [] 0 rest else code :: joinAll rest

def composeCodes (codes : List Nat) : List Nat := joinAll (inOrder (codes.flatMap parts))

end Assay.Text.Composition

namespace Assay.Text

/-- The composed form of a text.  Characters that never stand in a composed text,
such as the sign for the unit of resistance, have to be replaced before. -/
def compose (characters : List Char) : List Char :=
  (Composition.composeCodes (characters.map Char.toNat)).map Char.ofNat

end Assay.Text
