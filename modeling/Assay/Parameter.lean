import Assay.Parameter.Type

/-!
# Parameters of definitions

A parameter is optional exactly when it has a default, which may be null.
-/

namespace Assay

structure Parameter where
  name : String
  type : ParameterType
  default : Option Json.Value

namespace Parameter

def isOptional (parameter : Parameter) : Bool := parameter.default.isSome

def sameDefault : Option Json.Value → Option Json.Value → Bool
  | none, none => true
  | some left, some right => left.same right
  | _, _ => false

def same (left right : Parameter) : Bool :=
  left.name == right.name && left.type == right.type
    && sameDefault left.default right.default

def sameAll : List Parameter → List Parameter → Bool
  | [], [] => true
  | left :: lefts, right :: rights => left.same right && sameAll lefts rights
  | _, _ => false

/-! ## As JSON

A parameter is written with a default and with a flag that says whether the
default counts.
-/

def toJson (parameter : Parameter) : Json.Value :=
  .object [
    ("name", .string parameter.name),
    ("type", parameter.type.toJson),
    ("default", parameter.default.getD .null),
    ("optional", .bool parameter.isOptional)]

structure Draft where
  name : Option String
  type : Option ParameterType
  default : Option Json.Value
  optional : Option Bool

def shape : Json.Shape Draft Parameter where
  title := "ArgumentRepr"
  blank := ⟨none, none, none, none⟩
  fields := [
    .keep "name" true .string (·.name) fun name draft =>
      { draft with name := some name },
    .keep "type" true ParameterType.decode (·.type) fun type draft =>
      { draft with type := some type },
    .keep "default" false .anyValue (·.default) fun default draft =>
      { draft with default := some default },
    .keep "optional" false .bool (·.optional) fun optional draft =>
      { draft with optional := some optional }]
  finish := fun draft => do
    let name ← Json.needed "name" draft.name
    let type ← Json.needed "type" draft.type
    let default := draft.default.getD .null
    pure ⟨name, type, if draft.optional.getD false then some default else none⟩

def decode : Json.Decoder Parameter := shape.decode

end Parameter

end Assay
