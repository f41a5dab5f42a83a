import Assay.Metadata
import Assay.Text.Identifier

/-!
# Declarations

A declaration is what an author writes about a check.  It becomes metadata when
its names are identifiers, its parameters are told apart by their names and
every default fits its parameter.
-/

namespace Assay

inductive DefinitionError where
  | emptyName
  | emptyModule
  | invalidName (name : String)
  | invalidModule (moduleName : String)
  | invalidParameterName (name : String)
  | duplicateParameter (name : String)
  | defaultTypeMismatch (name : String) (expected : ParameterType)
  /-- The identity belongs to a different declaration already. -/
  | conflict (identity : Identity) (moduleName name : String)
deriving DecidableEq

def DefinitionError.message : DefinitionError → String
  | .emptyName => "Test definition name cannot be empty"
  | .emptyModule => "Test definition module cannot be empty"
  | .invalidName name => "Invalid test definition name '" ++ name ++ "'"
  | .invalidModule moduleName => "Invalid test definition module '" ++ moduleName ++ "'"
  | .invalidParameterName name => "Invalid parameter name '" ++ name ++ "'"
  | .duplicateParameter name => "Duplicate parameter '" ++ name ++ "'"
  | .defaultTypeMismatch name expected =>
      "Default for parameter '" ++ name ++ "' does not match declared type " ++ expected.name
  | .conflict identity moduleName name =>
      "Test definition " ++ identity.text
        ++ " is already registered with a different declaration than " ++ moduleName ++ "." ++ name

structure Declaration where
  moduleName : String
  name : String
  displayName : Option String
  doc : String
  moduleDoc : String
  code : String
  tags : List String
  parameters : List Parameter
  kind : DefinitionKind

namespace Declaration

/-- The identity of a declaration, whether or not its names are any good. -/
def identity (declaration : Declaration) : Identity :=
  .derive declaration.moduleName declaration.name

def ofKind (declaration : Declaration) (kind : DefinitionKind) : Declaration :=
  { declaration with kind := kind }

/-- The first problem of a parameter that follows those with the given names. -/
def checkParameter (earlier : List String) (parameter : Parameter) :
    Except DefinitionError Unit :=
  if !Text.isIdentifier parameter.name then .error (.invalidParameterName parameter.name)
  else if earlier.contains parameter.name then .error (.duplicateParameter parameter.name)
  else
    match parameter.default with
    | none => .ok ()
    | some default =>
        if parameter.type.acceptsDefault default then .ok ()
        else .error (.defaultTypeMismatch parameter.name parameter.type)

def checkParameters : List String → List Parameter → Except DefinitionError Unit
  | _, [] => .ok ()
  | earlier, parameter :: rest => do
      checkParameter earlier parameter
      checkParameters (parameter.name :: earlier) rest

/-- The first occurrence of every tag that is not among those seen. -/
def distinctAfter (seen : List String) : List String → List String
  | [] => []
  | tag :: rest =>
      if seen.contains tag then distinctAfter seen rest
      else tag :: distinctAfter (tag :: seen) rest

def distinctTags (tags : List String) : List String := distinctAfter [] tags

/-- The first problem of the names, a blank one before one of the wrong form. -/
def checkNames (declaration : Declaration) : Except DefinitionError Unit :=
  if Text.isBlankText declaration.name then .error .emptyName
  else if Text.isBlankText declaration.moduleName then .error .emptyModule
  else if !Text.isIdentifier declaration.name then .error (.invalidName declaration.name)
  else if !Text.isDottedIdentifier declaration.moduleName then
    .error (.invalidModule declaration.moduleName)
  else .ok ()

/-- The metadata of a declaration that has no problem. -/
def metadata (declaration : Declaration) : Metadata where
  identity := declaration.identity
  name := declaration.name
  displayName := declaration.displayName.getD declaration.name
  moduleName := declaration.moduleName
  doc := declaration.doc
  moduleDoc := declaration.moduleDoc
  code := declaration.code
  tags := distinctTags declaration.tags
  parameters := declaration.parameters
  kind := declaration.kind
  version := none

/-- Validate a declaration. -/
def toMetadata (declaration : Declaration) : Except DefinitionError Metadata := do
  declaration.checkNames
  checkParameters [] declaration.parameters
  pure declaration.metadata

end Declaration

end Assay
