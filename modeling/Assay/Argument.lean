import Assay.Json.Printer
import Assay.NameTable

/-!
# Arguments of checks

Scalars travel as JSON, so that they compare with declared defaults.
Collaborators such as models and datasets travel as handles: the library knows
the name of their type and which one it is, and nothing else about them.
-/

namespace Assay

/-- A shared object of the caller. -/
structure Collaborator where
  typeName : String
  handle : Nat
deriving DecidableEq

inductive ArgumentValue where
  | json (value : Json.Value)
  | collaborator (collaborator : Collaborator)

namespace ArgumentValue

def toJson? : ArgumentValue → Option Json.Value
  | .json value => some value
  | .collaborator _ => none

def toInt64? (value : ArgumentValue) : Option Int := value.toJson?.bind Json.Value.toInt64?

def toBinary64? (value : ArgumentValue) : Option Binary64 :=
  value.toJson?.bind Json.Value.toBinary64?

def toText? (value : ArgumentValue) : Option String := value.toJson?.bind Json.Value.toText?

def toBool? (value : ArgumentValue) : Option Bool := value.toJson?.bind Json.Value.toBool?

def isNull : ArgumentValue → Bool
  | .json value => value.isNull
  | .collaborator _ => false

/-- The collaborator, if it has this type. -/
def toCollaborator? (typeName : String) : ArgumentValue → Option Collaborator
  | .json _ => none
  | .collaborator shared => if shared.typeName = typeName then some shared else none

/-- Whether two values are the very same: collaborators by which one they are,
JSON by its content. -/
def isSame : ArgumentValue → ArgumentValue → Bool
  | .json left, .json right => left.same right
  | .collaborator left, .collaborator right => left.handle == right.handle
  | _, _ => false

/-- How a diagnostic shows a value. -/
def describe : ArgumentValue → String
  | .json value => value.compact
  | .collaborator shared => "<" ++ shared.typeName ++ ">"

end ArgumentValue

/-- Why an argument cannot be read. -/
inductive AccessError where
  | unbound (name : String)
  /-- The argument is not what its reader expects, which is named with its
  article. -/
  | notA (name : String) (expected : String)
deriving DecidableEq

def AccessError.message : AccessError → String
  | .unbound name => "argument '" ++ name ++ "' is not bound"
  | .notA name expected => "argument '" ++ name ++ "' is not " ++ expected

/-- The arguments that a check is run with. -/
abbrev Arguments := NameTable ArgumentValue

namespace Arguments

def value (arguments : Arguments) (name : String) : Except AccessError ArgumentValue :=
  match arguments.find? name with
  | some value => .ok value
  | none => .error (.unbound name)

/-- Read an argument in one way. -/
def readAs {α : Type} (arguments : Arguments) (name expected : String)
    (convert : ArgumentValue → Option α) : Except AccessError α :=
  match arguments.find? name with
  | none => .error (.unbound name)
  | some value =>
      match convert value with
      | some content => .ok content
      | none => .error (.notA name expected)

def int64 (arguments : Arguments) (name : String) : Except AccessError Int :=
  arguments.readAs name "an int" ArgumentValue.toInt64?

def binary64 (arguments : Arguments) (name : String) : Except AccessError Binary64 :=
  arguments.readAs name "a float" ArgumentValue.toBinary64?

def text (arguments : Arguments) (name : String) : Except AccessError String :=
  arguments.readAs name "a str" ArgumentValue.toText?

def bool (arguments : Arguments) (name : String) : Except AccessError Bool :=
  arguments.readAs name "a bool" ArgumentValue.toBool?

def collaborator (arguments : Arguments) (name typeName : String) :
    Except AccessError Collaborator :=
  arguments.readAs name ("a " ++ typeName) (ArgumentValue.toCollaborator? typeName)

/-- A collaborator that may be unbound or null. -/
def collaborator? (arguments : Arguments) (name typeName : String) :
    Except AccessError (Option Collaborator) :=
  match arguments.find? name with
  | none => .ok none
  | some value =>
      if value.isNull then .ok none
      else (arguments.collaborator name typeName).map some

/-- How a diagnostic shows a table of named things. -/
def describeEntries {α : Type} (describe : α → String) (table : NameTable α) : String :=
  "\x7b" ++ ", ".intercalate
    (table.entries.map fun entry => Text.quote entry.1 ++ ": " ++ describe entry.2) ++ "\x7d"

def describe (arguments : Arguments) : String :=
  "Arguments \x7b values: " ++ describeEntries ArgumentValue.describe arguments ++ " \x7d"

end Arguments

end Assay
