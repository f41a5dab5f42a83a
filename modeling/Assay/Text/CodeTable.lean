import Assay.Text.Blank
import Assay.Text.Hexadecimal

/-!
# Tables of code points

A table gives sequences of code points to single ones.  Its lines are made of
words.  A word with a colon says where a run of code points begins; the words
after it are the sequences of that code point and of its successors, one by one,
with plus signs between the members of a sequence.
-/

namespace Assay.Text.CodeTable

def readCode (digits : List Char) : Nat :=
  digits.foldl (fun code digit => code * 16 + (hexValue? digit).getD 0) 0

/-- The entries so far, the latest first, and the code point of the next one. -/
structure Draft where
  next : Nat
  entries : List (Nat × List Nat)

def readWord (draft : Draft) (word : List Char) : Draft :=
  if word.contains ':' then { draft with next := readCode word.dropLast }
  else ⟨draft.next + 1, (draft.next, (pieces '+' word).map readCode) :: draft.entries⟩

def ofLines (lines : List String) : List (Nat × List Nat) :=
  let words := lines.flatMap fun line => pieces ' ' line.toList
  (words.foldl readWord ⟨0, []⟩).entries.reverse

end Assay.Text.CodeTable
