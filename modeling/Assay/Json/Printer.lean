import Assay.Json.Value
import Assay.Number.Layout
import Assay.Text.Hexadecimal
import Assay.Text.Quoted

/-!
# JSON texts

The compact text has no blanks; the indented text puts every item and member
on a line of its own, two blanks deeper than the bracket around it.  A string
escapes the quote, the backslash and the control characters only.
-/

namespace Assay.Json

/-- Numbers of up to sixteen digits before the point, or up to four zeros after
it, are written positionally and always show that they are not integers. -/
def numberLayout : NumberLayout where
  leastPlain := -5
  greatestPlain := 15
  exponentMark := 'e'
  positiveSign := ['+']
  integerTail := ['.', '0']

def Number.print : Number → List Char
  | .integer value _ =>
      (if value < 0 then ['-'] else []) ++ NumberLayout.digitsOf value.natAbs
  | .binary value _ => numberLayout.render value

def escapeCharacter (character : Char) : List Char :=
  if character = '"' then ['\\', '"']
  else if character = '\\' then ['\\', '\\']
  else if character = '\x08' then ['\\', 'b']
  else if character = '\t' then ['\\', 't']
  else if character = '\n' then ['\\', 'n']
  else if character = '\x0c' then ['\\', 'f']
  else if character = '\r' then ['\\', 'r']
  else if character.toNat < 0x20 then
    ['\\', 'u', '0', '0'] ++ Text.hexByte character.toNat
  else [character]

def printString (text : String) : List Char :=
  '"' :: text.toList.flatMap escapeCharacter ++ ['"']

namespace Value

mutual

def print : Value → List Char
  | .null => ['n', 'u', 'l', 'l']
  | .bool true => ['t', 'r', 'u', 'e']
  | .bool false => ['f', 'a', 'l', 's', 'e']
  | .number content => content.print
  | .string text => printString text
  | .array [] => ['[', ']']
  | .array (item :: items) => '[' :: print item ++ printItems items ++ [']']
  | .object [] => ['\x7b', '\x7d']
  | .object ((name, value) :: members) =>
      '\x7b' :: printString name ++ ':' :: print value ++ printMembers members ++ ['\x7d']

/-- The items after the first one. -/
def printItems : List Value → List Char
  | [] => []
  | item :: items => ',' :: print item ++ printItems items

/-- The members after the first one. -/
def printMembers : List (String × Value) → List Char
  | [] => []
  | (name, value) :: members =>
      ',' :: printString name ++ ':' :: print value ++ printMembers members

end

/-- A new line, indented for a level of nesting. -/
def newLine (level : Nat) : List Char := '\n' :: List.replicate (2 * level) ' '

mutual

def printIndented (level : Nat) : Value → List Char
  | .null => ['n', 'u', 'l', 'l']
  | .bool true => ['t', 'r', 'u', 'e']
  | .bool false => ['f', 'a', 'l', 's', 'e']
  | .number content => content.print
  | .string text => printString text
  | .array [] => ['[', ']']
  | .array (item :: items) =>
      '[' :: newLine (level + 1) ++ printIndented (level + 1) item
        ++ printIndentedItems (level + 1) items ++ newLine level ++ [']']
  | .object [] => ['\x7b', '\x7d']
  | .object ((name, value) :: members) =>
      '\x7b' :: newLine (level + 1) ++ printString name
        ++ ':' :: ' ' :: printIndented (level + 1) value
        ++ printIndentedMembers (level + 1) members ++ newLine level ++ ['\x7d']

def printIndentedItems (level : Nat) : List Value → List Char
  | [] => []
  | item :: items =>
      ',' :: newLine level ++ printIndented level item ++ printIndentedItems level items

def printIndentedMembers (level : Nat) : List (String × Value) → List Char
  | [] => []
  | (name, value) :: members =>
      ',' :: newLine level ++ printString name ++ ':' :: ' ' :: printIndented level value
        ++ printIndentedMembers level members

end

def compact (value : Value) : String := String.ofList value.print

def indented (value : Value) : String := String.ofList (value.printIndented 0)

end Value

end Assay.Json
