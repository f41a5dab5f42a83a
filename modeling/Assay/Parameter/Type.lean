import Assay.Identity
import Assay.Json.Decoder

/-!
# Declared types of parameters

Four scalar types are checked against defaults.  Any other type is carried by
its name: it belongs to collaborators that the library never looks into.
-/

namespace Assay

inductive ParameterType where
  | int
  | float
  | str
  | bool
  | object (name : String)
deriving DecidableEq

namespace ParameterType

/-- The type as written in metadata. -/
def name : ParameterType → String
  | .int => "int"
  | .float => "float"
  | .str => "str"
  | .bool => "bool"
  | .object name => name

/-- The type that a name without blanks around it stands for. -/
def ofName (name : String) : ParameterType :=
  if name = "int" then .int
  else if name = "float" then .float
  else if name = "str" then .str
  else if name = "bool" then .bool
  else .object name

def parse (text : String) : Except ValidationError ParameterType :=
  let trimmed := Text.trim text
  if trimmed = "" then .error .emptyTypeName else .ok (ofName trimmed)

/-- Whether a value can be the default of a parameter of this type.  Null fits
every type, and an integer is no less a number for `float`. -/
def acceptsDefault : ParameterType → Json.Value → Bool
  | _, .null => true
  | .int, .number (.integer _ _) => true
  | .float, .number _ => true
  | .str, .string _ => true
  | .bool, .bool _ => true
  | .object _, _ => true
  | _, _ => false

def toJson (type : ParameterType) : Json.Value := .string type.name

def decode : Json.Decoder ParameterType := .checked parse ValidationError.message

/-- How a diagnostic shows a type. -/
def describe : ParameterType → String
  | .int => "Int"
  | .float => "Float"
  | .str => "Str"
  | .bool => "Bool"
  | .object name => "Object(" ++ Text.quote name ++ ")"

end ParameterType

namespace Identity

def toJson (identity : Identity) : Json.Value := .string identity.text

def decode : Json.Decoder Identity := .checked ofText ValidationError.message

end Identity

end Assay
