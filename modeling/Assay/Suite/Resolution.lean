import Assay.Instance

/-!
# Resolution of arguments

Every declared parameter of an instance gets its value from its binding, else
from the global of its name, else from its default.  A parameter that is wired
to a shared input takes the value of that input and nothing else.  The shared
inputs of all instances are collected before any instance is resolved, and all
that is wrong is reported at once.
-/

namespace Assay.Resolution

variable {σ : Type}

/-- Add references to the inputs known so far, which are distinct by name. -/
def collectFrom : List SuiteInput → List SuiteInput → Except BindingError (List SuiteInput)
  | known, [] => .ok known
  | known, input :: rest =>
      match known.find? (·.name == input.name) with
      | some first =>
          if first.type = input.type then collectFrom known rest
          else .error (.conflictingInput input.name first.type input.type)
      | none => collectFrom (known ++ [input]) rest

/-- The distinct shared inputs of some instances, in the order of their first
use. -/
def collectInputs (instances : List (Instance σ)) : Except BindingError (List SuiteInput) :=
  collectFrom [] (instances.flatMap Instance.inputs)

/-- The values that the globals supply for shared inputs. -/
def suppliedInputs (inputs : List SuiteInput) (globals : Arguments) : Arguments :=
  inputs.foldl (fun supplied input =>
    match globals.find? input.name with
    | some value => supplied.insert input.name value
    | none => supplied) .empty

/-- The value of one parameter. -/
def resolveParameter (bindings : NameTable Binding) (globals supplied : Arguments)
    (parameter : Parameter) : Except MissingParameter ArgumentValue :=
  match bindings.find? parameter.name with
  | some (.value value) => .ok value
  | some (.input input) =>
      match supplied.find? input.name with
      | some value => .ok value
      | none => .error ⟨parameter.name, parameter.type, some input.name⟩
  | none =>
      match globals.find? parameter.name with
      | some value => .ok value
      | none =>
          match parameter.default with
          | some default => .ok (.json default)
          | none => .error ⟨parameter.name, parameter.type, none⟩

/-- The values of the parameters that have one, and the other parameters. -/
def resolveParameters (bindings : NameTable Binding) (globals supplied : Arguments) :
    List Parameter → Arguments → Arguments × List MissingParameter
  | [], resolved => (resolved, [])
  | parameter :: rest, resolved =>
      match resolveParameter bindings globals supplied parameter with
      | .ok value =>
          resolveParameters bindings globals supplied rest (resolved.insert parameter.name value)
      | .error missing =>
          let (resolved, others) := resolveParameters bindings globals supplied rest resolved
          (resolved, missing :: others)

/-- The bound names that the definition of an instance does not declare. -/
def unexpectedNames (bound : Instance σ) : List String :=
  bound.bindings.names.filter fun name => (bound.metadata.parameter? name).isNone

def resolveInstance (position : Nat) (bound : Instance σ) (globals supplied : Arguments) :
    Except BindingReport Arguments :=
  let (resolved, missing) :=
    resolveParameters bound.bindings globals supplied bound.metadata.parameters .empty
  let report : BindingReport :=
    ⟨position, bound.identity, bound.metadata.displayName, missing, unexpectedNames bound⟩
  if report.isEmpty then .ok resolved else .error report

/-- Resolve instances from a position on; the reports of those that cannot be
resolved come second. -/
def resolveFrom (globals supplied : Arguments) :
    Nat → List (Instance σ) → List Arguments × List BindingReport
  | _, [] => ([], [])
  | position, bound :: rest =>
      let (resolved, reports) := resolveFrom globals supplied (position + 1) rest
      match resolveInstance position bound globals supplied with
      | .ok arguments => (arguments :: resolved, reports)
      | .error report => (resolved, report :: reports)

/-- The arguments of all instances, or everything that is wrong. -/
def resolveAll (instances : List (Instance σ)) (globals : Arguments) :
    Except BindingError (List Arguments) := do
  let inputs ← collectInputs instances
  let (resolved, reports) := resolveFrom globals (suppliedInputs inputs globals) 0 instances
  if reports.isEmpty then pure resolved else throw (.unresolved reports)

end Assay.Resolution

namespace Assay.Instance

/-- Run an instance on its own, with its bindings and the defaults only. -/
def execute {σ : Type} (bound : Instance σ) (state : σ) : Except BindingError CheckResult × σ :=
  match Resolution.resolveInstance 0 bound .empty .empty with
  | .error report => (.error (.unresolved [report]), state)
  | .ok arguments =>
      let (result, state) := bound.executeWith arguments state
      (.ok result, state)

end Assay.Instance
