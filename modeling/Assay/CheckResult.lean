import Assay.Json.Decoder

/-!
# Results of checks

A result separates "the check ran and said no" from "the check could not run":
only the second is an error, and it carries a message that says why.
-/

namespace Assay

inductive MessageLevel where
  | error
  | info
deriving DecidableEq

namespace MessageLevel

def variants : List (String × MessageLevel) := [("ERROR", .error), ("INFO", .info)]

def name : MessageLevel → String
  | .error => "ERROR"
  | .info => "INFO"

def toJson (level : MessageLevel) : Json.Value := .string level.name

def decode : Json.Decoder MessageLevel := .variant variants

end MessageLevel

/-- A note that a check leaves beside its verdict. -/
structure Message where
  level : MessageLevel
  text : String
deriving DecidableEq

namespace Message

def error (text : String) : Message := ⟨.error, text⟩

def info (text : String) : Message := ⟨.info, text⟩

def toJson (message : Message) : Json.Value :=
  .object [("type", message.level.toJson), ("text", .string message.text)]

structure Draft where
  level : Option MessageLevel
  text : Option String

def shape : Json.Shape Draft Message where
  title := "TestMessage"
  blank := ⟨none, none⟩
  fields := [
    .keep "type" true MessageLevel.decode (·.level) fun level draft =>
      { draft with level := some level },
    .keep "text" true .string (·.text) fun text draft =>
      { draft with text := some text }]
  finish := fun draft => do
    let level ← Json.needed "type" draft.level
    let text ← Json.needed "text" draft.text
    pure ⟨level, text⟩

def decode : Json.Decoder Message := shape.decode

end Message

structure CheckResult where
  passed : Bool
  isError : Bool
  messages : List Message
  metric : Option Binary64
  /-- Supporting data, such as failing examples. -/
  output : Option Json.Value

namespace CheckResult

def ofVerdict (passed : Bool) : CheckResult := ⟨passed, false, [], none, none⟩

/-- The result of a check that could not run. -/
def errored (text : String) : CheckResult := ⟨false, true, [.error text], none, none⟩

def withMessage (result : CheckResult) (message : Message) : CheckResult :=
  { result with messages := result.messages ++ [message] }

def withMetric (result : CheckResult) (metric : Binary64) : CheckResult :=
  { result with metric := some metric }

def withOutput (result : CheckResult) (output : Json.Value) : CheckResult :=
  { result with output := some output }

/-! ## As JSON

Messages, metric and output are left out when there are none.
-/

def members (result : CheckResult) : List (String × Json.Value) :=
  [("passed", .bool result.passed), ("is_error", .bool result.isError)]
    ++ (if result.messages.isEmpty then []
        else [("messages", .array (result.messages.map Message.toJson))])
    ++ (match result.metric with
        | none => []
        | some metric => [("metric", .ofBinary64 metric)])
    ++ (match result.output with
        | none => []
        | some output => [("output", output)])

def toJson (result : CheckResult) : Json.Value := .object result.members

structure Draft where
  passed : Option Bool
  isError : Option Bool
  messages : Option (List Message)
  metric : Option (Option Binary64)
  output : Option (Option Json.Value)

def shape : Json.Shape Draft CheckResult where
  title := "TestResult"
  blank := ⟨none, none, none, none, none⟩
  fields := [
    .keep "passed" true .bool (·.passed) fun passed draft =>
      { draft with passed := some passed },
    .keep "is_error" false .bool (·.isError) fun isError draft =>
      { draft with isError := some isError },
    .keep "messages" false (.list Message.decode) (·.messages) fun messages draft =>
      { draft with messages := some messages },
    .keep "metric" false (.optional .binary64) (·.metric) fun metric draft =>
      { draft with metric := some metric },
    .keep "output" false (.optional .anyValue) (·.output) fun output draft =>
      { draft with output := some output }]
  finish := fun draft => do
    let passed ← Json.needed "passed" draft.passed
    pure ⟨passed, draft.isError.getD false, draft.messages.getD [], draft.metric.getD none,
      draft.output.getD none⟩

def decode : Json.Decoder CheckResult := shape.decode

end CheckResult

/-- What a check answers: a bare verdict or a full result. -/
inductive Outcome where
  | verdict (passed : Bool)
  | detailed (result : CheckResult)

def Outcome.toResult : Outcome → CheckResult
  | .verdict passed => .ofVerdict passed
  | .detailed result => result

end Assay
