import Assay.Proofs.Suite.Locality
import Assay.Suite

/-!
# Instances on their own

An instance that is run on its own has the outcome of a suite with no other
instance and without globals.  Only the suite looks for conflicts of
placeholders, but a parameter that is wired to a placeholder has no value in
either run.
-/

namespace Assay

variable {σ : Type}

/-- The empty tables of an instance on its own are those of a suite without
globals. -/
theorem Instance.execute_eq (bound : Instance σ) (state : σ) :
    bound.execute state =
      if WellBound .empty bound then
        let (result, after) :=
          bound.executeWith (Resolution.argumentsFrom .empty bound) state
        (.ok result, after)
      else (.error (.unresolved [faultReport .empty 0 bound]), state) := by
  have resolution := Resolution.resolveInstance_of_carries
    (Resolution.carries_self .empty bound.bindings) 0
  by_cases wellBound : WellBound .empty bound
  · simp only [Instance.execute, resolution, if_pos wellBound]
  · simp only [Instance.execute, resolution, if_neg wellBound]

/-- Without globals a wired parameter has no value. -/
theorem not_resolvable_of_wired
    {bindings : NameTable Binding} {parameter : Parameter}
    {placeholder : SuiteInput}
    (wired : bindings.find? parameter.name = some (.input placeholder)) :
    ¬Resolvable .empty bindings parameter := by
  rintro ⟨value, supplies⟩
  cases supplies with
  | bound found => simp [wired] at found
  | shared _ given => simp at given
  | global unbound => simp [wired] at unbound
  | default unbound => simp [wired] at unbound

namespace Suite

open Resolution

/-- A run of one instance without globals is a run of the instance on its own
between two looks at the clock. -/
theorem run_singleton
    {bound : Instance σ} (agreeing : Agreeing [bound])
    (name : Option String) (clock : σ → Instant × σ) (state : σ) :
    (⟨name, [bound]⟩ : Suite σ).run .empty clock state =
      match bound.execute (clock state).2 with
      | (.error error, _) => (.error error, state)
      | (.ok result, after) =>
          (.ok ⟨name, [⟨bound.identity, bound.metadata.displayName, result⟩],
            (clock state).1, (clock after).1⟩, (clock after).2) := by
  have resolution := resolveAll_of_agreeing agreeing .empty
  rw [bound.execute_eq]
  by_cases wellBound : WellBound .empty bound
  · simp [run, resolution, wellBound, runInOrder, entries]
  · simp [run, resolution, wellBound, faults]

/-- An instance on its own has the result or the error of a suite that holds
nothing else and is run without globals.  The suite looks at the clock first, so
that its check starts in the state after that.  An instance with a wired
parameter fails on its own, whatever the default of the parameter is. -/
theorem execute_agrees_with_run
    (bound : Instance σ) (name : Option String) (clock : σ → Instant × σ)
    (state : σ) :
    (Agreeing [bound] →
      (∀ result, (bound.execute (clock state).2).1 = .ok result ↔
        ∃ report,
          ((⟨name, [bound]⟩ : Suite σ).run .empty clock state).1 =
              .ok report ∧
            report.entries =
              [⟨bound.identity, bound.metadata.displayName, result⟩]) ∧
        (∀ error, (bound.execute (clock state).2).1 = .error error ↔
          ((⟨name, [bound]⟩ : Suite σ).run .empty clock state).1 =
            .error error) ∧
        ∀ error, (bound.execute (clock state).2).1 = .error error →
          ∃ report, error = .unresolved [report] ∧ report.position = 0) ∧
      ∀ parameter ∈ bound.metadata.parameters, ∀ placeholder,
        bound.bindings.find? parameter.name = some (.input placeholder) →
          ∃ report,
            bound.execute state = (.error (.unresolved [report]), state) ∧
              ⟨parameter.name, parameter.type, some placeholder.name⟩ ∈
                report.missing := by
  constructor
  · intro agreeing
    rw [run_singleton agreeing]
    refine ⟨?results, ?errors, ?single⟩
    case results =>
      intro result
      rcases bound.execute (clock state).2 with ⟨error | own, after⟩
      · simp
      · simp
    case errors =>
      intro error
      rcases bound.execute (clock state).2 with ⟨own | result, after⟩
      · simp
      · simp
    case single =>
      intro error failed
      rw [bound.execute_eq] at failed
      split at failed
      · cases failed
      · cases failed
        exact ⟨_, rfl, rfl⟩
  · intro parameter member placeholder wired
    have unresolvable := not_resolvable_of_wired wired
    have notWellBound : ¬WellBound .empty bound :=
      fun wellBound => unresolvable (wellBound.resolvable parameter member)
    refine ⟨faultReport .empty 0 bound, ?_, ?_⟩
    · rw [bound.execute_eq, if_neg notWellBound]
    · apply List.mem_map.mpr
      refine ⟨parameter, List.mem_filter.mpr ⟨member, ?_⟩, ?_⟩
      · simpa using unresolvable
      · simp [missingEntry, wiredName?, wired]

/-- The placeholders of this instance conflict, which is told by a suite only;
the default of the threshold does not count. -/
example :
    let bound :=
      thresholdInstance.withInput "threshold" ⟨"candidate", .float⟩
    (bound.execute ()).1 = .error (.unresolved
        [⟨0, bound.identity, "auc",
          [⟨"model", .object "Model", some "candidate"⟩,
            ⟨"threshold", .float, some "candidate"⟩], []⟩]) ∧
      resolveAll [bound] .empty =
        .error (.conflictingInput "candidate" (.object "Model") .float) :=
  ⟨rfl, rfl⟩

end Suite

end Assay
