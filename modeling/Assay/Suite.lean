import Assay.Report
import Assay.Suite.Resolution

/-!
# Suites

A suite runs its instances in the order in which they were added.  All
arguments are resolved before anything is run; if one cannot be resolved,
nothing is run at all.  After that every instance is run exactly once, whatever
happens to the others.
-/

namespace Assay

structure Suite (σ : Type) where
  name : Option String
  instances : List (Instance σ)

namespace Suite

variable {σ : Type}

def empty (name : Option String) : Suite σ := ⟨name, []⟩

def add (suite : Suite σ) (bound : Instance σ) : Suite σ :=
  { suite with instances := suite.instances ++ [bound] }

/-- Add an instance with bindings put over its own. -/
def addWith (suite : Suite σ) (bound : Instance σ) (overrides : List (String × Binding)) :
    Suite σ :=
  suite.add (bound.rebuild overrides)

def size (suite : Suite σ) : Nat := suite.instances.length

def inputs (suite : Suite σ) : Except BindingError (List SuiteInput) :=
  Resolution.collectInputs suite.instances

/-- Run instances one after the other; each one starts in the state that the
one before it left. -/
def runInOrder : List (Instance σ × Arguments) → σ → List CheckResult × σ
  | [], state => ([], state)
  | (bound, arguments) :: rest, state =>
      let (result, state) := bound.executeWith arguments state
      let (results, state) := runInOrder rest state
      (result :: results, state)

/-- The entries of a report. -/
def entries (instances : List (Instance σ)) (results : List CheckResult) : List ReportEntry :=
  (instances.zip results).map fun (bound, result) =>
    ⟨bound.identity, bound.metadata.displayName, result⟩

/-- Run a suite.  The clock is read before the first and after the last
instance. -/
def run (suite : Suite σ) (globals : Arguments) (clock : σ → Instant × σ) (state : σ) :
    Except BindingError Report × σ :=
  match Resolution.resolveAll suite.instances globals with
  | .error error => (.error error, state)
  | .ok resolved =>
      let (startedAt, state) := clock state
      let (results, state) := runInOrder (suite.instances.zip resolved) state
      let (finishedAt, state) := clock state
      (.ok ⟨suite.name, entries suite.instances results, startedAt, finishedAt⟩, state)

/-- Persist the definitions of some instances, up to the first failure. -/
def uploadAll {τ : Type} (store : DefinitionStore τ) :
    List (Instance σ) → Registry → τ → Except CallFailure (List Version) × Registry × τ
  | [], registry, state => (.ok [], registry, state)
  | bound :: rest, registry, state =>
      match bound.upload store registry state with
      | (.error failure, registry, state) => (.error failure, registry, state)
      | (.ok version, registry, state) =>
          match uploadAll store rest registry state with
          | (.error failure, registry, state) => (.error failure, registry, state)
          | (.ok versions, registry, state) => (.ok (version :: versions), registry, state)

/-- The version of the definition of every instance. -/
def upload {τ : Type} (suite : Suite σ) (store : DefinitionStore τ) (registry : Registry)
    (state : τ) : Except CallFailure (List Version) × Registry × τ :=
  uploadAll store suite.instances registry state

/-- How a diagnostic shows a suite. -/
def describe (suite : Suite σ) : String :=
  let name :=
    match suite.name with
    | none => "None"
    | some name => "Some(" ++ Text.quote name ++ ")"
  "Suite \x7b name: " ++ name ++ ", tests: ["
    ++ ", ".intercalate (suite.instances.map Instance.describe) ++ "] \x7d"

end Suite

end Assay
