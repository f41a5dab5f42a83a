import Assay.Argument
import Assay.Suite.Input

/-!
# Bindings

A parameter of an instance is bound to a value or wired to a shared input.
What is wrong with the bindings of an instance is told in one report.
-/

namespace Assay

inductive Binding where
  | value (content : ArgumentValue)
  | input (placeholder : SuiteInput)

/-- How a diagnostic shows a binding. -/
def Binding.describe : Binding → String
  | .value content => "Value(" ++ content.describe ++ ")"
  | .input placeholder => "Input(" ++ placeholder.describe ++ ")"

/-- A parameter without a value, and the shared input that it is wired to, if
any. -/
structure MissingParameter where
  name : String
  type : ParameterType
  input : Option String
deriving DecidableEq

def MissingParameter.describe (missing : MissingParameter) : String :=
  let plain := "'" ++ missing.name ++ "': " ++ missing.type.name
  match missing.input with
  | none => plain
  | some input =>
      if input = missing.name then plain
      else "'" ++ missing.name ++ "' (shared input '" ++ input ++ "'): " ++ missing.type.name

/-- Everything wrong with the bindings of the instance at a position. -/
structure BindingReport where
  position : Nat
  identity : Identity
  name : String
  missing : List MissingParameter
  /-- The bound names that the definition does not declare. -/
  unexpected : List String
deriving DecidableEq

namespace BindingReport

def isEmpty (report : BindingReport) : Bool :=
  report.missing.isEmpty && report.unexpected.isEmpty

def describe (report : BindingReport) : String :=
  let missing :=
    if report.missing.isEmpty then ""
    else
      " Missing " ++ toString report.missing.length ++ " required parameters: \x7b"
        ++ ", ".intercalate (report.missing.map MissingParameter.describe) ++ "\x7d"
  let unexpected :=
    if report.unexpected.isEmpty then ""
    else " Unexpected parameters: " ++ Text.quoteAll report.unexpected
  "#" ++ toString report.position ++ " " ++ report.name ++ ":" ++ missing ++ unexpected

end BindingReport

inductive BindingError where
  | unresolved (reports : List BindingReport)
  /-- One name is declared with two types. -/
  | conflictingInput (name : String) (first second : ParameterType)
deriving DecidableEq

namespace BindingError

def reports : BindingError → List BindingReport
  | .unresolved reports => reports
  | .conflictingInput _ _ _ => []

def message : BindingError → String
  | .unresolved reports => "; ".intercalate (reports.map BindingReport.describe)
  | .conflictingInput name first second =>
      "Shared input '" ++ name ++ "' declared as both " ++ first.name ++ " and " ++ second.name

end BindingError

end Assay
