import Assay.Text.Printable

/-!
# Quoted texts for diagnostics

A diagnostic shows a text in double quotes, with every character that would
not be visible there written as an escape.
-/

namespace Assay.Text

def quoteCharacter (character : Char) : List Char :=
  if character = '\x00' then ['\\', '0']
  else if character = '\t' then ['\\', 't']
  else if character = '\r' then ['\\', 'r']
  else if character = '\n' then ['\\', 'n']
  else if character = '"' then ['\\', '"']
  else if character = '\\' then ['\\', '\\']
  else if isVisible character then [character]
  else ['\\', 'u', '\x7b'] ++ Nat.toDigits 16 character.toNat ++ ['\x7d']

def quoteList (characters : List Char) : List Char :=
  '"' :: characters.flatMap quoteCharacter ++ ['"']

def quote (text : String) : String :=
  String.ofList (quoteList text.toList)

/-- Quoted texts in brackets. -/
def quoteAll (texts : List String) : String :=
  "[" ++ ", ".intercalate (texts.map quote) ++ "]"

end Assay.Text
