import Assay.Binding
import Assay.Check
import Assay.Registry

/-!
# Instances of definitions

An instance is a registered definition with bindings for some of its
parameters.  Instances of one definition share its metadata and its logic, but
never their bindings.
-/

namespace Assay

structure Instance (σ : Type) where
  metadata : Metadata
  logic : Logic σ
  bindings : NameTable Binding

namespace Definition

variable {σ : Type}

/-- Create an instance without bindings.  A definition whose identity is unknown
is registered first; one that differs from its entry is refused. -/
def bind (definition : Definition σ) (registry : Registry) :
    Except DefinitionError (Instance σ) × Registry :=
  match definition.declaration.toMetadata with
  | .error error => (.error error, registry)
  | .ok candidate =>
      let (kept, registry) := registry.insertFirst candidate
      if kept.sameDefinition candidate then
        (.ok ⟨kept, definition.logic, .empty⟩, registry)
      else
        (.error (.conflict candidate.identity candidate.moduleName candidate.name), registry)

end Definition

namespace Instance

variable {σ : Type}

def identity (bound : Instance σ) : Identity := bound.metadata.identity

/-- The shared inputs that an instance is wired to, by parameter name. -/
def inputs (bound : Instance σ) : List SuiteInput :=
  bound.bindings.entries.filterMap fun entry =>
    match entry.2 with
    | .input input => some input
    | .value _ => none

def bindTo (bound : Instance σ) (name : String) (binding : Binding) : Instance σ :=
  { bound with bindings := bound.bindings.insert name binding }

def withValue (bound : Instance σ) (name : String) (value : ArgumentValue) : Instance σ :=
  bound.bindTo name (.value value)

def withInput (bound : Instance σ) (name : String) (input : SuiteInput) : Instance σ :=
  bound.bindTo name (.input input)

/-- Another instance of the definition, with bindings put over those that are
there. -/
def rebuild (bound : Instance σ) (overrides : List (String × Binding)) : Instance σ :=
  { bound with bindings := bound.bindings.insertAll overrides }

/-- Run the logic with resolved arguments.  Whatever the logic does, there is a
result. -/
def executeWith (bound : Instance σ) (arguments : Arguments) (state : σ) : CheckResult × σ :=
  let (conclusion, state) := bound.logic arguments state
  (concludeCheck bound.metadata.name conclusion, state)

/-- Persist the definition of an instance, unless it has a version. -/
def upload {τ : Type} (bound : Instance σ) (store : DefinitionStore τ) (registry : Registry)
    (state : τ) : Except CallFailure Version × Registry × τ :=
  let registry :=
    if registry.contains bound.identity then registry
    else (registry.adopt bound.metadata).2
  registry.save store bound.identity bound.metadata.code.toByteArray state

/-- How a diagnostic shows an instance. -/
def describe (bound : Instance σ) : String :=
  "TestInstance \x7b id: " ++ bound.identity.describe ++ ", name: "
    ++ Text.quote bound.metadata.name ++ ", params: "
    ++ Arguments.describeEntries Binding.describe bound.bindings ++ " \x7d"

end Instance

end Assay
