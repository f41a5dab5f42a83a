import Assay.Parameter.Type

/-!
# Shared inputs

A shared input is a placeholder: its value is supplied once for a run, under
the name of the input, and is seen by every instance that is wired to it.
-/

namespace Assay

structure SuiteInput where
  name : String
  type : ParameterType
deriving DecidableEq

namespace SuiteInput

def toJson (input : SuiteInput) : Json.Value :=
  .object [("name", .string input.name), ("type", input.type.toJson)]

structure Draft where
  name : Option String
  type : Option ParameterType

def shape : Json.Shape Draft SuiteInput where
  title := "SuiteInput"
  blank := ⟨none, none⟩
  fields := [
    .keep "name" true .string (·.name) fun name draft =>
      { draft with name := some name },
    .keep "type" true ParameterType.decode (·.type) fun type draft =>
      { draft with type := some type }]
  finish := fun draft => do
    let name ← Json.needed "name" draft.name
    let type ← Json.needed "type" draft.type
    pure ⟨name, type⟩

def decode : Json.Decoder SuiteInput := shape.decode

/-- How a diagnostic shows a shared input. -/
def describe (input : SuiteInput) : String :=
  "SuiteInput \x7b name: " ++ Text.quote input.name ++ ", param_type: " ++ input.type.describe
    ++ " \x7d"

end SuiteInput

end Assay
