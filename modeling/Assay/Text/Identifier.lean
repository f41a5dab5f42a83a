import Assay.Text.Blank

/-!
# Identifiers

Parameters and checks are named by an identifier, modules by a dotted sequence
of them.  Both use ASCII letters, digits and the underscore only.
-/

namespace Assay.Text

def isIdentifierStart (character : Char) : Bool :=
  character.isAlpha || character == '_'

def isIdentifierPart (character : Char) : Bool :=
  character.isAlphanum || character == '_'

def isIdentifierList : List Char → Bool
  | [] => false
  | first :: rest => isIdentifierStart first && rest.all isIdentifierPart

/-- A letter or underscore, then letters, digits and underscores. -/
def isIdentifier (text : String) : Bool :=
  isIdentifierList text.toList

/-- Identifiers joined by single dots, at least one of them. -/
def isDottedIdentifier (text : String) : Bool :=
  (pieces '.' text.toList).all isIdentifierList

end Assay.Text
