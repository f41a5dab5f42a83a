import Assay.Text.Blank

/-!
# Files and folders

A path is a sequence of names, from the root or from the working folder.  What
can be done with files is a record of operations on a state of their own, so
that a store of definitions does not depend on where the files are kept, and so
that any of the operations may fail.
-/

namespace Assay

inductive FileError where
  | notFound
  | alreadyThere
  | notAFolder
  | isAFolder
  | invalidName
  | nameTooLong
  | invalidText
  /-- Any other failure of the medium. -/
  | failed
deriving DecidableEq

def FileError.message : FileError → String
  | .notFound => "no such file or folder"
  | .alreadyThere => "already there"
  | .notAFolder => "not a folder"
  | .isAFolder => "is a folder"
  | .invalidName => "not a valid name"
  | .nameTooLong => "name too long"
  | .invalidText => "not a valid text"
  | .failed => "operation failed"

structure Path where
  fromRoot : Bool
  names : List String
deriving DecidableEq

namespace Path

/-- The path that a text with slashes stands for. -/
def ofText (text : String) : Path :=
  match Text.pieces '/' text.toList with
  | [] :: name :: rest => ⟨true, (name :: rest).map String.ofList⟩
  | names => ⟨false, names.map String.ofList⟩

/-- Go on with a name. -/
def enter (path : Path) (name : String) : Path := ⟨path.fromRoot, path.names ++ [name]⟩

/-- Go on with the names of another path. -/
def append (path inner : Path) : Path := ⟨path.fromRoot, path.names ++ inner.names⟩

/-- Names that stay where they are. -/
def isIdleName (name : String) : Bool := name == "" || name == "."

/-- The path without its last name that leads anywhere. -/
def parent? (path : Path) : Option Path :=
  match path.names.reverse.dropWhile isIdleName with
  | [] => none
  | _ :: outer => some ⟨path.fromRoot, (outer.dropWhile isIdleName).reverse⟩

/-- The text of a path, with a slash between two names. -/
def text (path : Path) : String :=
  (if path.fromRoot then "/" else "") ++ "/".intercalate path.names

/-- The bytes that the text of a path takes. -/
def byteCount (path : Path) : Nat :=
  path.names.foldl (fun count name => count + name.utf8ByteSize + 1) 0

end Path

structure FileSystem (σ : Type) where
  read : Path → σ → Except FileError ByteArray × σ
  write : Path → ByteArray → σ → Except FileError Unit × σ
  /-- Make a folder, and every folder on the way to it. -/
  makeFolders : Path → σ → Except FileError Unit × σ
  /-- The names in a folder. -/
  children : Path → σ → Except FileError (List String) × σ

end Assay
