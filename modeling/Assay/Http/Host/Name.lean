import Assay.Http.Host.Folding
import Assay.Text.Blank
import Assay.Text.Composition
import Assay.Text.Direction
import Assay.Text.Joining
import Assay.Text.Punycode

/-!
# Names of hosts

A name is a list of labels with dots between them.  A label in other characters
than ASCII travels as Punycode behind `xn--`, and so does a label that was
written in Punycode already: it must be the one way to write the text that it
stands for.
-/

namespace Assay.Host

/-! ## Labels -/

/-- Limits on labels that are long beyond use. -/
def longestCode : Nat := 2000

def longestText : Nat := 1000

def isAscii (characters : List Char) : Bool := characters.all fun c => c.toNat < 0x80

/-- The text that a label stands for. -/
def labelText? (label : List Char) : Option (List Char) :=
  match label with
  | 'x' :: 'n' :: '-' :: '-' :: code => do
      if code.isEmpty ∨ code.getLast? = some '-' ∨ longestCode < code.length then none
      let text ← Text.Punycode.decode code
      if text.all isFolded && !text.contains '.' && Text.compose text == text then some text
      else none
  | _ => some label

/-- The character before a joiner, or the letters on both sides, have to call for
it.  The characters before it are given with the nearest first. -/
def isJoinerAllowed (joiner : Char) (before after : List Char) : Bool :=
  match before with
  | [] => false
  | previous :: _ =>
      let isBetweenLetters :=
        ((before.dropWhile Text.isTransparent).head?.any Text.joinsForward)
          && ((after.dropWhile Text.isTransparent).head?.any Text.joinsBackward)
      Text.combiningClass previous.toNat == Text.viramaClass
        || (joiner == '\u200c' && isBetweenLetters)

def areJoinersAllowed (before : List Char) : List Char → Bool
  | [] => true
  | character :: after =>
      (!isJoiner character || isJoinerAllowed character before after)
        && areJoinersAllowed (character :: before) after

/-- A label begins with no mark, and its joiners are called for. -/
def isLabelText (text : List Char) : Bool :=
  !text.head?.any Text.isMark && areJoinersAllowed [] text
    && (isAscii text || text.length ≤ longestText)

/-! ## Direction -/

/-- Whether a text has anything that is written from right to left. -/
def goesRight (text : List Char) : Bool :=
  text.any fun character =>
    Text.direction character == .right || Text.direction character == .arabic

/-- The direction in which the last character that is no mark is written. -/
def lastDirection (first : Text.Direction) (rest : List Char) : Text.Direction :=
  (((rest.map Text.direction).reverse.dropWhile (· == .mark)).head?).getD first

/-- In a name that goes from right to left somewhere, every label keeps one
direction: it begins with a letter, it ends with a letter of the same direction
or a digit, and it does not mix digits of two kinds. -/
def keepsDirection (text : List Char) : Bool :=
  match text with
  | [] => true
  | character :: rest =>
      let directions := rest.map Text.direction
      match Text.direction character with
      | .left =>
          let last := lastDirection .left rest
          (last == .left || last == .european)
            && directions.all (fun each => each != .right && each != .arabic)
      | .right =>
          let last := lastDirection .right rest
          (last == .right || last == .european || last == .arabic)
            && directions.all (· != .left)
            && !(directions.contains .european && directions.contains .arabic)
      | _ => false

/-! ## Names -/

/-- The characters of a name with everything replaced that stands for something
else. -/
def foldName? (name : List Char) : Option (List Char) := do
  let folded ← name.mapM fold?
  pure (Text.compose folded.flatten)

def labelCode (text : List Char) : List Char :=
  if isAscii text then text else ['x', 'n', '-', '-'] ++ Text.Punycode.encode text

/-- The one way to write a name in ASCII. -/
def asciiName? (name : List Char) : Option (List Char) := do
  let folded ← foldName? name
  let texts ← (Text.pieces '.' folded).mapM labelText?
  if !texts.all isLabelText then none
  if texts.any goesRight && !texts.all keepsDirection then none
  pure (['.'].intercalate (texts.map labelCode))

end Assay.Host
