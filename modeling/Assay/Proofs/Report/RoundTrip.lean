import Assay.Proofs.Metadata.RoundTrip
import Assay.Report

/-!
# Reports read back from their texts

A report that was written and read back is the same but for two things that its text does
not tell from nothing: a metric that is no finite number and an output that is null.  What
has been read once does not change any more.
-/

namespace Assay

namespace MessageLevel

theorem decode_toJson (level : MessageLevel) (medium : Json.Medium) :
    decode medium (.ofValue level.toJson) = .ok level := by
  cases level <;> cases medium <;> rfl

end MessageLevel

namespace Message

theorem decode_toJson (message : Message) (levels : Nat) :
    decode (.text (levels + 1)) (.ofValue message.toJson) = .ok message := by
  have read : shape.readMembers (.text levels)
      (Json.Source.ofMembers [("type", message.level.toJson), ("text", .string message.text)])
      shape.blank = .ok ⟨some message.level, some message.text⟩ := by
    simp only [Json.Source.ofMembers]
    rw [Json.Shape.readMembers_fill rfl rfl (Json.Field.keep_fill
      (MessageLevel.decode_toJson _ _) _)]
    rw [Json.Shape.readMembers_fill rfl rfl (Json.Field.keep_fill rfl _)]
    rfl
  rw [decode, toJson, Json.Source.ofValue, Json.Shape.decode_object read]
  rfl

theorem legible_toJson (message : Message) : message.toJson.Legible := by
  apply Json.Value.Legible.object
  simp only [List.forall_mem_cons]
  exact ⟨.string _, .string _, List.forall_mem_nil _⟩

end Message

/-! ## Results -/

namespace CheckResult

/-- The levels that a text leaves for an output: it stands in a result, in an entry, in the
list of entries, in the report. -/
def outputLevels : Nat := Json.textLevels - 4

/-- A result whose text tells all there is to read: its metric, if it is a finite number, and
the numbers of its output are those that their texts stand for, and the output is ordered
as values in memory are and not nested too deep. -/
structure Portable (result : CheckResult) : Prop where
  metric : ∀ metric ∈ result.metric, (Json.Value.ofBinary64 metric).Legible
  ordered : ∀ output ∈ result.output, output.OrderedWithin outputLevels
  legible : ∀ output ∈ result.output, output.Legible

/-- The result without what its text does not tell from nothing. -/
def settled (result : CheckResult) : CheckResult :=
  { result with
    metric := result.metric.filter (·.isFinite)
    output := result.output.filter (!·.isNull) }

@[simp] theorem settled_settled (result : CheckResult) :
    result.settled.settled = result.settled := by
  simp [settled, Option.filter_filter]

theorem Portable.settled {result : CheckResult} (portable : result.Portable) :
    result.settled.Portable where
  metric := fun metric given => portable.metric metric (Option.eq_some_of_filter_eq_some given)
  ordered := fun output given => portable.ordered output (Option.eq_some_of_filter_eq_some given)
  legible := fun output given => portable.legible output (Option.eq_some_of_filter_eq_some given)

/-! ### Parts that may be left out -/

def writtenMessages (result : CheckResult) : Option Json.Value :=
  if result.messages.isEmpty then none
  else some (.array (result.messages.map Message.toJson))

def writtenMetric (result : CheckResult) : Option Json.Value :=
  result.metric.map .ofBinary64

theorem members_eq (result : CheckResult) :
    result.members =
      ("passed", .bool result.passed) :: ("is_error", .bool result.isError) ::
        ((result.writtenMessages.map fun value => ("messages", value)).toList ++
          ((result.writtenMetric.map fun value => ("metric", value)).toList ++
            ((result.output.map fun value => ("output", value)).toList ++ []))) := by
  obtain ⟨passed, isError, messages, metric, output⟩ := result
  cases messages <;> cases metric <;> cases output <;> rfl

theorem decode_ofBinary64 (metric : Binary64) (medium : Json.Medium) :
    Json.Decoder.optional .binary64 medium (.ofValue (.ofBinary64 metric)) =
      .ok ((some metric).filter (·.isFinite)) := by
  rw [Json.Value.ofBinary64, Json.Number.ofBinary?]
  by_cases finite : metric.isFinite = true
  · rw [dif_pos finite, Option.filter_some_pos finite]
    rfl
  · rw [dif_neg finite, Option.filter_some_neg (Bool.eq_false_iff.mpr finite)]
    rfl

theorem decode_output
    {levels : Nat} {output : Json.Value} (ordered : output.OrderedWithin levels) :
    Json.Decoder.optional .anyValue (.text levels) (.ofValue output) =
      .ok ((some output).filter (!·.isNull)) := by
  have taken : Json.Decoder.anyValue (.text levels) (.ofValue output) = .ok output :=
    Json.Decoder.value_ofValue ordered
  cases output with
  | null => rfl
  | _ => exact congrArg (Except.map some) taken

/-- What the fields come to when the text of a result is read. -/
def draft (result : CheckResult) : Draft where
  passed := some result.passed
  isError := some result.isError
  messages := result.writtenMessages.map fun _ => result.messages
  metric := result.writtenMetric.map fun _ => result.settled.metric
  output := result.output.map fun _ => result.settled.output

theorem finish_draft (result : CheckResult) :
    shape.finish result.draft = .ok result.settled := by
  obtain ⟨passed, isError, messages, metric, output⟩ := result
  cases messages <;> cases metric <;> cases output <;> rfl

theorem decode_writtenMessages
    {result : CheckResult} {value : Json.Value} (written : value ∈ result.writtenMessages) :
    Json.Decoder.list Message.decode (.text outputLevels) (.ofValue value) =
      .ok result.messages := by
  rw [writtenMessages] at written
  split at written
  · contradiction
  · rw [← Option.some.inj written]
    exact Json.Decoder.list_ofValue fun message _ => message.decode_toJson _

theorem decode_writtenMetric
    {result : CheckResult} {value : Json.Value} (written : value ∈ result.writtenMetric)
    (medium : Json.Medium) :
    Json.Decoder.optional .binary64 medium (.ofValue value) = .ok result.settled.metric := by
  obtain ⟨given, same, rfl⟩ := Option.map_eq_some_iff.mp written
  rw [settled, same, decode_ofBinary64]

theorem decode_writtenOutput
    {result : CheckResult} (portable : result.Portable) {value : Json.Value}
    (written : value ∈ result.output) :
    Json.Decoder.optional .anyValue (.text outputLevels) (.ofValue value) =
      .ok result.settled.output := by
  rw [settled, written, decode_output (portable.ordered value written)]

theorem decode_toJson {result : CheckResult} (portable : result.Portable) :
    decode (.text (outputLevels + 1)) (.ofValue result.toJson) = .ok result.settled := by
  -- the fields of the draft are filled one after the other, those that are left out stay as
  -- they were
  have withMessages : { result.draft with metric := none, output := none } =
      if result.writtenMessages.isSome
      then (⟨some result.passed, some result.isError, some result.messages, none, none⟩ : Draft)
      else ⟨some result.passed, some result.isError, none, none, none⟩ := by
    rw [draft]
    cases result.writtenMessages <;> rfl
  have withMetric : { result.draft with output := none } =
      if result.writtenMetric.isSome
      then { result.draft with metric := some result.settled.metric, output := none }
      else { result.draft with metric := none, output := none } := by
    rw [draft]
    cases result.writtenMetric <;> rfl
  have withOutput : result.draft =
      if result.output.isSome
      then { result.draft with output := some result.settled.output }
      else { result.draft with output := none } := by
    rw [draft]
    cases result.output <;> rfl
  have read : shape.readMembers (.text outputLevels) (Json.Source.ofMembers result.members)
      shape.blank = .ok result.draft := by
    rw [members_eq]
    simp only [Json.Source.ofMembers]
    rw [Json.Shape.readMembers_fill rfl rfl (Json.Field.keep_fill rfl _)]
    rw [Json.Shape.readMembers_fill rfl rfl (Json.Field.keep_fill rfl _)]
    rw [Json.Shape.readMembers_maybe rfl rfl
      (fun _ => decode_writtenMessages) withMessages]
    rw [Json.Shape.readMembers_maybe rfl rfl
      (fun _ written => decode_writtenMetric written _) withMetric]
    rw [Json.Shape.readMembers_maybe rfl rfl
      (fun _ => decode_writtenOutput portable) withOutput]
    rfl
  rw [decode, toJson, Json.Source.ofValue, Json.Shape.decode_object read, finish_draft]

theorem legible_toJson {result : CheckResult} (portable : result.Portable) :
    result.toJson.Legible := by
  apply Json.Value.Legible.object
  intro member present
  rw [members_eq] at present
  simp only [List.mem_cons, List.mem_append, List.not_mem_nil, or_false, Option.mem_toList,
    Option.map_eq_some_iff] at present
  rcases present with rfl | rfl | ⟨value, written, rfl⟩ | ⟨value, written, rfl⟩ |
    ⟨value, written, rfl⟩
  · exact .bool _
  · exact .bool _
  · rw [writtenMessages] at written
    split at written
    · contradiction
    · rw [← Option.some.inj written]
      apply Json.Value.Legible.array
      intro item inside
      obtain ⟨message, _, rfl⟩ := List.mem_map.mp inside
      exact message.legible_toJson
  · obtain ⟨metric, given, rfl⟩ := Option.map_eq_some_iff.mp written
    exact portable.metric metric given
  · exact portable.legible value written

end CheckResult

/-! ## Entries and reports -/

namespace ReportEntry

def settled (entry : ReportEntry) : ReportEntry := { entry with result := entry.result.settled }

theorem decode_toJson {entry : ReportEntry} (portable : entry.result.Portable) :
    decode (.text (CheckResult.outputLevels + 2)) (.ofValue entry.toJson) =
      .ok entry.settled := by
  have read : shape.readMembers (.text (CheckResult.outputLevels + 1))
      (Json.Source.ofMembers [
        ("test_id", entry.identity.toJson),
        ("test_name", .string entry.name),
        ("result", entry.result.toJson)]) shape.blank =
      .ok ⟨some entry.identity, some entry.name, some entry.result.settled⟩ := by
    simp only [Json.Source.ofMembers]
    rw [Json.Shape.readMembers_fill rfl rfl (Json.Field.keep_fill
      (Identity.decode_toJson _ _) _)]
    rw [Json.Shape.readMembers_fill rfl rfl (Json.Field.keep_fill rfl _)]
    rw [Json.Shape.readMembers_fill rfl rfl (Json.Field.keep_fill
      (CheckResult.decode_toJson portable) _)]
    rfl
  rw [decode, toJson, Json.Source.ofValue, Json.Shape.decode_object read]
  rfl

theorem legible_toJson {entry : ReportEntry} (portable : entry.result.Portable) :
    entry.toJson.Legible := by
  apply Json.Value.Legible.object
  simp only [List.forall_mem_cons]
  exact ⟨.string _, .string _, CheckResult.legible_toJson portable, List.forall_mem_nil _⟩

end ReportEntry

theorem Instant.decode_toJson
    {instant : Instant} (readsBack : Timestamp.parse (Timestamp.render instant) = .ok instant)
    (medium : Json.Medium) :
    decode medium (.ofValue instant.toJson) = .ok instant := by
  rw [toJson, Json.Source.ofValue, decode]
  simp only [readsBack]

namespace Report

/-- A report whose results tell all there is to read, with instants that are those that
their timestamps stand for. -/
structure Portable (report : Report) : Prop where
  results : ∀ entry ∈ report.entries, entry.result.Portable
  started : Timestamp.parse (Timestamp.render report.startedAt) = .ok report.startedAt
  finished : Timestamp.parse (Timestamp.render report.finishedAt) = .ok report.finishedAt

/-- The report without the metrics that are no finite numbers and the outputs that are
null. -/
def settled (report : Report) : Report :=
  { report with entries := report.entries.map ReportEntry.settled }

variable {report : Report}

@[simp] theorem settled_settled (report : Report) : report.settled.settled = report.settled := by
  simp [settled, ReportEntry.settled]

theorem Portable.settled (portable : report.Portable) : report.settled.Portable where
  results := by
    intro entry member
    obtain ⟨original, present, rfl⟩ := List.mem_map.mp member
    exact (portable.results original present).settled
  started := portable.started
  finished := portable.finished

def writtenName (report : Report) : Option Json.Value := report.suiteName.map .string

theorem toJson_eq (report : Report) :
    report.toJson = .object ((report.writtenName.map fun value => ("suite_name", value)).toList ++
      [("results", .array (report.entries.map ReportEntry.toJson)),
        ("started_at", report.startedAt.toJson),
        ("finished_at", report.finishedAt.toJson)]) := by
  obtain ⟨suiteName, entries, startedAt, finishedAt⟩ := report
  cases suiteName <;> rfl

/-- What the fields come to when the text of a report is read. -/
def draft (report : Report) : Draft where
  suiteName := report.writtenName.map fun _ => report.suiteName
  entries := some report.settled.entries
  startedAt := some report.startedAt
  finishedAt := some report.finishedAt

theorem finish_draft (report : Report) : shape.finish report.draft = .ok report.settled := by
  obtain ⟨suiteName, entries, startedAt, finishedAt⟩ := report
  cases suiteName <;> rfl

theorem decode_toJson (portable : report.Portable) :
    decode (.text Json.textLevels) (.ofValue report.toJson) = .ok report.settled := by
  have suiteName : ∀ value ∈ report.writtenName,
      Json.Decoder.optional .string (.text (CheckResult.outputLevels + 3)) (.ofValue value) =
        .ok report.suiteName := by
    intro value written
    obtain ⟨name, same, rfl⟩ := Option.map_eq_some_iff.mp written
    rw [same]
    rfl
  have withName : (⟨report.draft.suiteName, none, none, none⟩ : Draft) =
      if report.writtenName.isSome then ⟨some report.suiteName, none, none, none⟩
      else ⟨none, none, none, none⟩ := by
    rw [draft]
    cases report.writtenName <;> rfl
  have entries : Json.Decoder.list ReportEntry.decode (.text (CheckResult.outputLevels + 3))
      (.ofValue (.array (report.entries.map ReportEntry.toJson))) =
        .ok report.settled.entries :=
    Json.Decoder.list_ofValue_map fun entry member =>
      ReportEntry.decode_toJson (portable.results entry member)
  have read : shape.readMembers (.text (CheckResult.outputLevels + 3))
      (Json.Source.ofMembers
        ((report.writtenName.map fun value => ("suite_name", value)).toList ++
          [("results", .array (report.entries.map ReportEntry.toJson)),
            ("started_at", report.startedAt.toJson),
            ("finished_at", report.finishedAt.toJson)])) shape.blank = .ok report.draft := by
    rw [Json.Shape.readMembers_maybe rfl rfl suiteName withName]
    simp only [Json.Source.ofMembers]
    rw [Json.Shape.readMembers_fill rfl rfl (Json.Field.keep_fill entries _)]
    rw [Json.Shape.readMembers_fill rfl rfl (Json.Field.keep_fill
      (Instant.decode_toJson portable.started _) _)]
    rw [Json.Shape.readMembers_fill rfl rfl (Json.Field.keep_fill
      (Instant.decode_toJson portable.finished _) _)]
    rfl
  have levels : Json.textLevels = CheckResult.outputLevels + 3 + 1 := rfl
  rw [decode, toJson_eq, levels, Json.Source.ofValue, Json.Shape.decode_object read,
    finish_draft]

theorem legible_toJson (portable : report.Portable) : report.toJson.Legible := by
  rw [toJson_eq]
  apply Json.Value.Legible.object
  intro member present
  simp only [List.mem_append, Option.mem_toList, Option.map_eq_some_iff, List.mem_cons,
    List.not_mem_nil, or_false] at present
  rcases present with ⟨value, written, rfl⟩ | rfl | rfl | rfl
  · obtain ⟨name, _, rfl⟩ := Option.map_eq_some_iff.mp written
    exact .string name
  · apply Json.Value.Legible.array
    intro item inside
    obtain ⟨entry, recorded, rfl⟩ := List.mem_map.mp inside
    exact ReportEntry.legible_toJson (portable.results entry recorded)
  · exact .string _
  · exact .string _

/-- What is read from the text of a report, with whatever blanks. -/
theorem readText_of_print
    (portable : report.Portable) {spacing : Json.Spacing} {text : String}
    (printed : text.toList = spacing.print 0 report.toJson) :
    decode.readText text = .ok report.settled := by
  rw [Json.Decoder.readText_print decode printed,
    Json.Source.reread_of_legible (legible_toJson portable), decode_toJson portable]

/-! ## What survives -/

@[simp] theorem passed_settled (report : Report) : report.settled.passed = report.passed := by
  rw [passed, passed, settled, List.all_map]
  rfl

theorem countP_settled
    (report : Report) {counts : ReportEntry → Bool}
    (same : ∀ entry, counts entry.settled = counts entry) :
    report.settled.entries.countP counts = report.entries.countP counts := by
  rw [settled, List.countP_map]
  exact congrArg (report.entries.countP ·) (funext same)

/-- A report is read back from its compact and from its indented text without the metrics
that are no finite numbers and the outputs that are null.  Nothing else is lost or moved,
the counts are the same, and what was read is read back as it is. -/
theorem readText_settled
    (report : Report)
    (portable : report.Portable) :
    (∀ write ∈ [Json.Value.compact, Json.Value.indented],
      decode.readText (write report.toJson) = .ok report.settled ∧
        decode.readText (write report.settled.toJson) = .ok report.settled) ∧
    report.settled.suiteName = report.suiteName ∧
    report.settled.startedAt = report.startedAt ∧
    report.settled.finishedAt = report.finishedAt ∧
    report.settled.entries.map (fun entry =>
        (entry.identity, entry.name, entry.result.passed, entry.result.isError,
          entry.result.messages, entry.result.metric, entry.result.output)) =
      report.entries.map (fun entry =>
        (entry.identity, entry.name, entry.result.passed, entry.result.isError,
          entry.result.messages, entry.result.metric.filter (·.isFinite),
          entry.result.output.filter (!·.isNull))) ∧
    report.settled.passed = report.passed ∧
    report.settled.passedCount = report.passedCount ∧
    report.settled.failedCount = report.failedCount ∧
    report.settled.errorCount = report.errorCount := by
  have again : decode.readText report.settled.toJson.compact = .ok report.settled ∧
      decode.readText report.settled.toJson.indented = .ok report.settled := by
    have compact := readText_of_print portable.settled
      (Json.Value.toList_compact report.settled.toJson)
    have indented := readText_of_print portable.settled
      (Json.Value.toList_indented report.settled.toJson)
    rw [settled_settled] at compact indented
    exact ⟨compact, indented⟩
  refine ⟨?texts, rfl, rfl, rfl, ?entries, passed_settled report,
    countP_settled report fun _ => rfl, countP_settled report fun _ => rfl,
    countP_settled report fun _ => rfl⟩
  case texts =>
    simp only [List.forall_mem_cons]
    exact ⟨⟨readText_of_print portable (Json.Value.toList_compact report.toJson), again.1⟩,
      ⟨readText_of_print portable (Json.Value.toList_indented report.toJson), again.2⟩,
      List.forall_mem_nil _⟩
  case entries =>
    rw [settled, List.map_map]
    rfl

/-- A report of a suite with a name: a check that passed with a metric, one that found no
finite number and left a null, and one that could not run and left what it had. -/
def nightly : Report where
  suiteName := some "nightly \"quick\""
  entries := [
    ⟨⟨"accuracy", by decide⟩, "Accuracy", ⟨true, false, [], some ⟨0x3FB999999999999A⟩, none⟩⟩,
    ⟨⟨"drift", by decide⟩, "", ⟨false, false, [.info "no data\n", .error "NaN"],
      some ⟨0x7FF8000000000000⟩, some .null⟩⟩,
    ⟨⟨"drift", by decide⟩, "Drift",
      ⟨false, true, [.error "lost"], none, some (.object [
        ("rows", .array [.number (.integer (-7) (by decide)), .null]), ("table", .string "é")])⟩⟩]
  startedAt := ⟨19782, 86399, 1500000000⟩
  finishedAt := ⟨19783, 0, 1000⟩

theorem portable_nightly : nightly.Portable where
  results := by
    simp only [nightly, List.forall_mem_cons]
    refine ⟨?passing, ?unknown, ?broken, List.forall_mem_nil _⟩
    case passing =>
      have readsBack : (Json.Number.binary ⟨0x3FB999999999999A⟩ rfl).ReadsBack := rfl
      exact ⟨by simpa using .number readsBack, by simp, by simp⟩
    case unknown =>
      exact ⟨by simpa using .null, by simpa using .null, by simpa using .null⟩
    case broken =>
      refine ⟨by simp, ?_, ?_⟩
      · rintro _ ⟨⟩
        refine .object (by decide) ?_
        simp only [List.forall_mem_cons]
        refine ⟨.array ?_, .string _, List.forall_mem_nil _⟩
        simp only [List.forall_mem_cons]
        exact ⟨.number _, .null, List.forall_mem_nil _⟩
      · rintro _ ⟨⟩
        refine .object ?_
        simp only [List.forall_mem_cons]
        refine ⟨.array ?_, .string _, List.forall_mem_nil _⟩
        simp only [List.forall_mem_cons]
        exact ⟨.number (Json.Number.readsBack_integer _ _), .null, List.forall_mem_nil _⟩
  started := rfl
  finished := rfl

theorem readText_nightly :
    nightly.Portable ∧
      decode.readText nightly.toJson.compact = .ok nightly.settled ∧
      nightly.settled.passedCount = 1 ∧
      nightly.settled.errorCount = 1 := by
  obtain ⟨texts, _, _, _, _, _, passed, _, errors⟩ := readText_settled nightly portable_nightly
  exact ⟨portable_nightly, (texts _ List.mem_cons_self).1, passed, errors⟩

end Report

end Assay
