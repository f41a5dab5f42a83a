import Assay.CheckResult
import Assay.Parameter.Type
import Assay.Time.Timestamp

/-!
# Reports of suite runs

A report lists one entry for every instance of the suite, in the order in which
the instances were added.
-/

namespace Assay

structure ReportEntry where
  identity : Identity
  name : String
  result : CheckResult

namespace ReportEntry

def toJson (entry : ReportEntry) : Json.Value :=
  .object [
    ("test_id", entry.identity.toJson),
    ("test_name", .string entry.name),
    ("result", entry.result.toJson)]

structure Draft where
  identity : Option Identity
  name : Option String
  result : Option CheckResult

def shape : Json.Shape Draft ReportEntry where
  title := "SuiteTestResult"
  blank := ⟨none, none, none⟩
  fields := [
    .keep "test_id" true Identity.decode (·.identity) fun identity draft =>
      { draft with identity := some identity },
    .keep "test_name" true .string (·.name) fun name draft =>
      { draft with name := some name },
    .keep "result" true CheckResult.decode (·.result) fun result draft =>
      { draft with result := some result }]
  finish := fun draft => do
    let identity ← Json.needed "test_id" draft.identity
    let name ← Json.needed "test_name" draft.name
    let result ← Json.needed "result" draft.result
    pure ⟨identity, name, result⟩

def decode : Json.Decoder ReportEntry := shape.decode

end ReportEntry

namespace Instant

def toJson (instant : Instant) : Json.Value := .string (Timestamp.render instant)

/-- A timestamp that is no text is called by its standard. -/
def decode : Json.Decoder Instant
  | _, .string text =>
      match Timestamp.parse text with
      | .ok instant => .ok instant
      | .error error => .error (.mismatch (.refused error.message))
  | _, source =>
      .error (Json.unexpected source "an RFC 3339 formatted date and time string")

end Instant

structure Report where
  suiteName : Option String
  entries : List ReportEntry
  startedAt : Instant
  finishedAt : Instant

namespace Report

/-- Every entry passed; an empty suite passes. -/
def passed (report : Report) : Bool := report.entries.all (·.result.passed)

def size (report : Report) : Nat := report.entries.length

def passedCount (report : Report) : Nat := report.entries.countP (·.result.passed)

/-- The entries that ran and said no. -/
def failedCount (report : Report) : Nat :=
  report.entries.countP fun entry => !entry.result.passed && !entry.result.isError

def errorCount (report : Report) : Nat := report.entries.countP (·.result.isError)

def get? (report : Report) (position : Nat) : Option CheckResult :=
  report.entries[position]?.map (·.result)

def toJson (report : Report) : Json.Value :=
  .object
    ((match report.suiteName with
      | none => []
      | some name => [("suite_name", .string name)])
    ++ [
      ("results", .array (report.entries.map ReportEntry.toJson)),
      ("started_at", report.startedAt.toJson),
      ("finished_at", report.finishedAt.toJson)])

structure Draft where
  suiteName : Option (Option String)
  entries : Option (List ReportEntry)
  startedAt : Option Instant
  finishedAt : Option Instant

def shape : Json.Shape Draft Report where
  title := "SuiteResult"
  blank := ⟨none, none, none, none⟩
  fields := [
    .keep "suite_name" false (.optional .string) (·.suiteName) fun suiteName draft =>
      { draft with suiteName := some suiteName },
    .keep "results" true (.list ReportEntry.decode) (·.entries) fun entries draft =>
      { draft with entries := some entries },
    .keep "started_at" true Instant.decode (·.startedAt) fun startedAt draft =>
      { draft with startedAt := some startedAt },
    .keep "finished_at" true Instant.decode (·.finishedAt) fun finishedAt draft =>
      { draft with finishedAt := some finishedAt }]
  finish := fun draft => do
    let entries ← Json.needed "results" draft.entries
    let startedAt ← Json.needed "started_at" draft.startedAt
    let finishedAt ← Json.needed "finished_at" draft.finishedAt
    pure ⟨draft.suiteName.getD none, entries, startedAt, finishedAt⟩

def decode : Json.Decoder Report := shape.decode

end Report

end Assay
