import Assay.Argument
import Assay.CheckResult
import Assay.Declaration

/-!
# Checks

The logic of a check takes its arguments and answers with an outcome.  It may
read and change a state that it shares with other checks, and it may end
without an outcome: with an error, or by a panic.  A definition is a
declaration with the logic that it describes.
-/

namespace Assay

/-- An error with its causes, the outermost text first. -/
structure CheckError where
  outermost : String
  causes : List String
deriving DecidableEq

namespace CheckError

def ofText (text : String) : CheckError := ⟨text, []⟩

/-- The same error, seen from further out. -/
def within (error : CheckError) (context : String) : CheckError :=
  ⟨context, error.outermost :: error.causes⟩

/-- All the texts in a line. -/
def message (error : CheckError) : String := ": ".intercalate (error.outermost :: error.causes)

end CheckError

/-- How a check can end without an outcome. -/
inductive Abort where
  | failed (error : CheckError)
  /-- A panic carries a text, unless its payload is none. -/
  | panicked (payload : Option String)
deriving DecidableEq

/-- What a step of a check yields, and the state it leaves. -/
abbrev CheckStep (σ α : Type) := Except Abort α × σ

abbrev Logic (σ : Type) := Arguments → σ → CheckStep σ Outcome

/-- The result that is reported for the end of a check: an error is never a
pass. -/
def concludeCheck (name : String) : Except Abort Outcome → CheckResult
  | .ok outcome =>
      let result := outcome.toResult
      { result with passed := result.passed && !result.isError }
  | .error (.failed error) => .errored error.message
  | .error (.panicked payload) =>
      .errored (name ++ " panicked: " ++ payload.getD "unknown panic")

/-- A check that is first built from its arguments and then run without any. -/
structure CheckClass (σ κ : Type) where
  declaration : Declaration
  construct : Arguments → σ → CheckStep σ κ
  execute : κ → σ → CheckStep σ Outcome

/-- The logic of a class: what cannot be built is not run. -/
def CheckClass.logic {σ κ : Type} (checkClass : CheckClass σ κ) : Logic σ :=
  fun arguments state =>
    match checkClass.construct arguments state with
    | (.error abort, state) => (.error abort, state)
    | (.ok check, state) => checkClass.execute check state

structure Definition (σ : Type) where
  declaration : Declaration
  logic : Logic σ

namespace Definition

variable {σ : Type}

def ofFunction (declaration : Declaration) (logic : Logic σ) : Definition σ :=
  ⟨declaration.ofKind .function, logic⟩

def ofClass {κ : Type} (checkClass : CheckClass σ κ) : Definition σ :=
  ⟨checkClass.declaration.ofKind .classBased, checkClass.logic⟩

def identity (definition : Definition σ) : Identity := definition.declaration.identity

/-- How a diagnostic shows a definition. -/
def describe (definition : Definition σ) : String :=
  "Definition \x7b module: " ++ Text.quote definition.declaration.moduleName ++ ", name: "
    ++ Text.quote definition.declaration.name ++ ", kind: "
    ++ definition.declaration.kind.describe ++ " \x7d"

end Definition

end Assay
