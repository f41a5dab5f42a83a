import Assay.Http.Host.FoldingTable
import Assay.Text.Printable

/-!
# Folding the characters of a name

Names that people take for the same are the same: a name is compared in small
letters, and characters that are only other forms of others do not count as
their own.  Some characters count for nothing, and some are in no name at all.
-/

namespace Assay.Host

/-- The ASCII characters that no name holds. -/
def isForbidden (character : Char) : Bool :=
  character.toNat ≤ 0x20 || character.toNat == 0x7F
    || ['#', '/', ':', '<', '>', '?', '@', '[', '\\', ']', '^', '|', '%'].contains character

/-- Whether two letters are joined, or kept apart, by this character. -/
def isJoiner (character : Char) : Bool := character == '\u200c' || character == '\u200d'

/-- The code points that a code point beyond ASCII folds to, if it is not itself. -/
def folded? (code : Nat) : Option (List Nat) :=
  match foldingRuns.findSome? (·.fold? code) with
  | some target => some [target]
  | none => foldings.lookup code

/-- What a character stands for in a name, if it may be in one. -/
def fold? (character : Char) : Option (List Char) :=
  let code := character.toNat
  if code < 0x80 then
    if isForbidden character then none else some [character.toLower]
  else if Text.inRanges droppedRanges code then some []
  else
    match folded? code with
    | some targets =>
        let characters := targets.map Char.ofNat
        if characters.any isForbidden then none else some characters
    | none =>
        if isJoiner character then some [character]
        else if Text.isHidden character || Text.inRanges refusedRanges code then none
        else some [character]

/-- Whether a character stands for itself. -/
def isFolded (character : Char) : Bool := fold? character == some [character]

end Assay.Host
