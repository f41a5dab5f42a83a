import Assay.Proofs.Suite.Invocation

/-!
# What the report of a run adds up to

An entry of a report is a pass, a failure or an error, and the report counts each kind with
a test of its own.  The three counts are those of a partition because no result of a run is
at once a pass and an error, and that is settled where the end of a check becomes a result.
-/

namespace Assay

/-- The ends of a check that are reported as errors. -/
inductive EndsInError : Except Abort Outcome → Prop where
  | failed (error : CheckError) : EndsInError (.error (.failed error))
  | panicked (payload : Option String) : EndsInError (.error (.panicked payload))
  | flagged {result : CheckResult} (flag : result.isError = true) :
      EndsInError (.ok (.detailed result))

theorem concludeCheck_isError_iff (name : String) (conclusion : Except Abort Outcome) :
    (concludeCheck name conclusion).isError = true ↔ EndsInError conclusion := by
  constructor
  · intro flag
    match conclusion, flag with
    | .ok (.verdict passed), flag => exact absurd flag Bool.false_ne_true
    | .ok (.detailed result), flag => exact .flagged flag
    | .error (.failed error), _ => exact .failed error
    | .error (.panicked payload), _ => exact .panicked payload
  · intro ends
    cases ends with
    | failed error => rfl
    | panicked payload => rfl
    | flagged flag => exact flag

theorem concludeCheck_not_passed_of_isError
    {name : String} {conclusion : Except Abort Outcome}
    (flag : (concludeCheck name conclusion).isError = true) :
    (concludeCheck name conclusion).passed = false := by
  cases (concludeCheck_isError_iff name conclusion).mp flag with
  | failed error => rfl
  | panicked payload => rfl
  | @flagged result resultFlag =>
      change (result.passed && !result.isError) = false
      rw [resultFlag, Bool.not_true, Bool.and_false]

namespace Report

variable {report : Report}

/-- No entry is at once a pass and an error. -/
def Unambiguous (report : Report) : Prop :=
  ∀ entry ∈ report.entries, ¬(entry.result.passed = true ∧ entry.result.isError = true)

theorem passed_iff_passedCount :
    report.passed = true ↔ report.passedCount = report.size := by
  rw [passed, passedCount, size, List.all_eq_true, List.countP_eq_length]

/-- The passes, failures and errors of a list of entries are all of its entries. -/
private theorem countP_add
    {entries : List ReportEntry}
    (unambiguous : ∀ entry ∈ entries,
      ¬(entry.result.passed = true ∧ entry.result.isError = true)) :
    entries.countP (·.result.passed) +
        entries.countP (fun entry => !entry.result.passed && !entry.result.isError) +
          entries.countP (·.result.isError) = entries.length := by
  induction entries with
  | nil => rfl
  | cons entry entries induction =>
      obtain ⟨notBoth, others⟩ := List.forall_mem_cons.mp unambiguous
      have rest := induction others
      simp only [List.countP_cons, List.length_cons]
      -- of the three tests exactly one counts the first entry
      cases pass : entry.result.passed <;> cases flag : entry.result.isError
      · simp
        omega
      · simp
        omega
      · simp
        omega
      · exact absurd ⟨pass, flag⟩ notBoth

theorem Unambiguous.counts_add (unambiguous : report.Unambiguous) :
    report.passedCount + report.failedCount + report.errorCount = report.size :=
  countP_add unambiguous

/-- A report passes just when it counts neither failures nor errors. -/
theorem Unambiguous.passed_iff (unambiguous : report.Unambiguous) :
    report.passed = true ↔ report.failedCount = 0 ∧ report.errorCount = 0 := by
  have counts := unambiguous.counts_add
  rw [passed_iff_passedCount]
  omega

end Report

variable {σ : Type}

theorem Invocation.entry_not_both (invocation : Invocation σ) :
    ¬(invocation.entry.result.passed = true ∧ invocation.entry.result.isError = true) := by
  rintro ⟨pass, flag⟩
  have notPassed := concludeCheck_not_passed_of_isError flag
  exact Bool.false_ne_true (notPassed.symm.trans pass)

namespace Suite

variable {suite : Suite σ} {globals : Arguments} {clock : σ → Instant × σ} {state final : σ}
  {report : Report}

theorem run_unambiguous
    (ran : suite.run globals clock state = (.ok report, final)) : report.Unambiguous := by
  obtain ⟨resolved, _, entriesOfCalls⟩ := run_entries ran
  intro entry member
  rw [entriesOfCalls] at member
  obtain ⟨invocation, _, rfl⟩ := List.mem_map.mp member
  exact invocation.entry_not_both

/-- The report of a run, whatever its checks do: no entry is a pass and an error, the three
counts are those of a partition, and the report passes just when all entries do, so when
there is neither a failure nor an error.  An entry is an error just when the call that it
reports ended in an error or a panic, or with a result that is flagged as an error. -/
theorem run_report_adds_up
    (ran : suite.run globals clock state = (.ok report, final)) :
    (∀ entry ∈ report.entries,
        ¬(entry.result.passed = true ∧ entry.result.isError = true)) ∧
      report.passedCount + report.failedCount + report.errorCount = report.entries.length ∧
      (report.passed = true ↔ report.passedCount = report.entries.length) ∧
      (report.passed = true ↔ report.failedCount = 0 ∧ report.errorCount = 0) ∧
      ∃ journal,
        suite.recorded.run globals (besideJournal clock) (state, []) =
            (.ok report, (final, journal)) ∧
          (∀ invocation ∈ journal, invocation.Genuine) ∧
          List.Forall₂ (fun bound invocation => invocation.bound = bound)
            suite.instances journal ∧
          List.Forall₂ (fun entry invocation =>
              entry.result.isError = true ↔ EndsInError invocation.conclusion)
            report.entries journal := by
  have unambiguous := run_unambiguous ran
  obtain ⟨resolved, resolution, entriesOfCalls⟩ := run_entries ran
  have recordedRun := run_recorded resolution clock state
  rw [ran] at recordedRun
  have inOrder := callsInOrder_invocationsOf
    (Resolution.resolveAll_length resolution) (clock state).2
  refine ⟨unambiguous, unambiguous.counts_add, Report.passed_iff_passedCount,
    unambiguous.passed_iff, _, recordedRun, inOrder.genuine, ?bounds, ?errors⟩
  case bounds =>
    have bounds := inOrder.map_bound
    rw [← List.forall₂_eq_eq_eq, List.forall₂_map_left_iff] at bounds
    exact bounds.flip
  case errors =>
    rw [entriesOfCalls, List.forall₂_map_left_iff]
    exact List.forall₂_same.mpr fun invocation _ =>
      concludeCheck_isError_iff invocation.bound.metadata.name invocation.conclusion

/-- Four checks without parameters: one says yes, one says no, one panics without a text and
one says yes in a result that is flagged as an error. -/
def quarrellingSuite : Suite Nat where
  name := none
  instances :=
    let conclusions : List (Except Abort Outcome) :=
      [.ok (.verdict true), .ok (.verdict false), .error (.panicked none),
        .ok (.detailed { CheckResult.errored "no rows" with passed := true })]
    conclusions.map fun conclusion =>
      { metadata :=
          { identity := ⟨"quarrel", by decide⟩
            name := "quarrel"
            displayName := "Quarrel"
            moduleName := "checks"
            doc := ""
            moduleDoc := ""
            code := ""
            tags := []
            parameters := []
            kind := .function
            version := none }
        logic := fun _ calls => (conclusion, calls + 1)
        bindings := .empty }

theorem run_quarrellingSuite :
    ∃ report,
      quarrellingSuite.run .empty (fun calls => (⟨0, 0, 0⟩, calls)) 0 = (.ok report, 4) ∧
        report.entries.map (fun entry => (entry.result.passed, entry.result.isError)) =
          [(true, false), (false, false), (false, true), (false, true)] ∧
        report.passedCount + report.failedCount + report.errorCount = report.entries.length ∧
        report.passed = false := by
  have ran : quarrellingSuite.run .empty (fun calls => (⟨0, 0, 0⟩, calls)) 0 =
      (.ok ⟨none, entries quarrellingSuite.instances
        [⟨true, false, [], none, none⟩, ⟨false, false, [], none, none⟩,
          .errored "quarrel panicked: unknown panic", .errored "no rows"],
        ⟨0, 0, 0⟩, ⟨0, 0, 0⟩⟩, 4) := rfl
  obtain ⟨_, counts, _, passes, _⟩ := run_report_adds_up ran
  refine ⟨_, ran, rfl, counts, Bool.eq_false_iff.mpr fun pass => ?_⟩
  exact absurd (passes.mp pass).2 (by decide)

end Suite

end Assay
