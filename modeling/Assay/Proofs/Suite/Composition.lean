import Assay.Proofs.Suite.Invocation
import Assay.Proofs.Suite.Locality

/-!
# Suites put together

What is resolved, reported and run for the instances of one suite is the same
when they share a suite with others whose placeholders do not conflict with
theirs.  Only the positions of the later instances move.
-/

namespace Assay

variable {σ : Type}

/-- The report of an instance with others before it. -/
def BindingReport.moved (offset : Nat) (report : BindingReport) :
    BindingReport :=
  { report with position := report.position + offset }

theorem Agreeing.of_subset
    {some all : List (Instance σ)} (agreeing : Agreeing all)
    (subset : ∀ bound ∈ some, bound ∈ all) :
    Agreeing some := by
  have wired {placeholder : SuiteInput} (inSome : Wired some placeholder) :
      Wired all placeholder := by
    obtain ⟨bound, member, found⟩ := inSome
    exact ⟨bound, subset bound member, found⟩
  intro left right leftWired rightWired sameName
  exact agreeing left right (wired leftWired) (wired rightWired) sameName

theorem Agreeing.of_append
    {left right : List (Instance σ)} (agreeing : Agreeing (left ++ right)) :
    Agreeing left ∧ Agreeing right := by
  constructor
  · exact agreeing.of_subset fun _ => List.mem_append_left right
  · exact agreeing.of_subset fun _ => List.mem_append_right left

/-! ## Reports -/

theorem faultsOf_moved
    (globals : Arguments) (offset position : Nat) (bound : Instance σ) :
    faultsOf globals (position + offset) bound =
      (faultsOf globals position bound).map (·.moved offset) := by
  unfold faultsOf
  split <;> rfl

theorem faults_moved
    (globals : Arguments) (offset : Nat) (instances : List (Instance σ)) :
    faults globals offset instances =
      (faults globals 0 instances).map (·.moved offset) := by
  have moved : instances.zipIdx offset =
      instances.zipIdx.map (Prod.map id (· + offset)) := by
    rw [List.map_snd_add_zipIdx_eq_zipIdx, Nat.add_zero]
  rw [faults_eq_flatMap, faults_eq_flatMap, moved, List.flatMap_map,
    List.map_flatMap]
  apply List.flatMap_congr
  intro entry _
  exact faultsOf_moved globals offset entry.2 entry.1

theorem faults_append
    (globals : Arguments) (left right : List (Instance σ)) :
    faults globals 0 (left ++ right) =
      faults globals 0 left ++
        (faults globals 0 right).map (·.moved left.length) := by
  rw [← faults_moved, faults_eq_flatMap, faults_eq_flatMap,
    faults_eq_flatMap, List.zipIdx_append, List.flatMap_append, Nat.zero_add]

theorem position_of_mem_faultsOf
    {globals : Arguments} {position : Nat} {bound : Instance σ}
    {report : BindingReport} (member : report ∈ faultsOf globals position bound) :
    report.position = position := by
  unfold faultsOf at member
  split at member
  · cases member
  · rw [List.mem_singleton.mp member]
    rfl

theorem le_position_of_mem_faults
    {globals : Arguments} {offset : Nat} {instances : List (Instance σ)}
    {report : BindingReport} (member : report ∈ faults globals offset instances) :
    offset ≤ report.position := by
  rw [faults_eq_flatMap] at member
  obtain ⟨entry, listed, reported⟩ := List.mem_flatMap.mp member
  rw [position_of_mem_faultsOf reported]
  exact List.le_snd_of_mem_zipIdx listed

/-- Of the instance at a position a report tells what it tells of the instance
alone. -/
theorem filter_faults
    {instances : List (Instance σ)} {index : Nat} {bound : Instance σ}
    (found : instances[index]? = some bound) (globals : Arguments)
    (offset : Nat) :
    (faults globals offset instances).filter
        (·.position == offset + index) =
      faultsOf globals (offset + index) bound := by
  induction instances generalizing index offset with
  | nil => cases found
  | cons first rest induction =>
      have split : faults globals offset (first :: rest) =
          faultsOf globals offset first ++ faults globals (offset + 1) rest := by
        simp only [faults_eq_flatMap, List.zipIdx_cons, List.flatMap_cons]
      rw [split, List.filter_append]
      cases index with
      | zero =>
          obtain rfl : first = bound := Option.some.inj found
          have own : (faultsOf globals offset first).filter
              (·.position == offset) = faultsOf globals offset first := by
            apply List.filter_eq_self.mpr
            intro report member
            simp [position_of_mem_faultsOf member]
          have others : (faults globals (offset + 1) rest).filter
              (·.position == offset) = [] := by
            apply List.filter_eq_nil_iff.mpr
            intro report member
            have higher := le_position_of_mem_faults member
            simp
            omega
          rw [Nat.add_zero, own, others, List.append_nil]
      | succ index =>
          have others : (faultsOf globals offset first).filter
              (·.position == offset + (index + 1)) = [] := by
            apply List.filter_eq_nil_iff.mpr
            intro report member
            simp [position_of_mem_faultsOf member]
          have moved : offset + (index + 1) = offset + 1 + index := by omega
          rw [others, List.nil_append, moved]
          exact induction found (offset + 1)

namespace Resolution

theorem resolveAll_append_eq_ok_iff
    {left right : List (Instance σ)} (agreeing : Agreeing (left ++ right))
    {globals : Arguments} {resolved : List Arguments} :
    resolveAll (left ++ right) globals = .ok resolved ↔
      ∃ ofLeft ofRight, resolveAll left globals = .ok ofLeft ∧
        resolveAll right globals = .ok ofRight ∧
        ofLeft ++ ofRight = resolved := by
  obtain ⟨leftAgreeing, rightAgreeing⟩ := agreeing.of_append
  simp only [resolveAll_eq_ok_iff, agreeing, leftAgreeing, rightAgreeing,
    true_and, List.forall_mem_append, List.map_append]
  constructor
  · rintro ⟨⟨leftWellBound, rightWellBound⟩, rfl⟩
    exact ⟨_, _, ⟨leftWellBound, rfl⟩, ⟨rightWellBound, rfl⟩, rfl⟩
  · rintro ⟨_, _, ⟨leftWellBound, rfl⟩, ⟨rightWellBound, rfl⟩, rfl⟩
    exact ⟨⟨leftWellBound, rightWellBound⟩, rfl⟩

theorem resolveAll_append_eq_error
    {left right : List (Instance σ)} (agreeing : Agreeing (left ++ right))
    {globals : Arguments} {error : BindingError}
    (failed : resolveAll (left ++ right) globals = .error error) :
    error = .unresolved (reportsOf (resolveAll left globals) ++
      (reportsOf (resolveAll right globals)).map (·.moved left.length)) := by
  obtain ⟨leftAgreeing, rightAgreeing⟩ := agreeing.of_append
  rw [reportsOf_resolveAll leftAgreeing, reportsOf_resolveAll rightAgreeing,
    ← faults_append]
  rw [resolveAll_of_agreeing agreeing] at failed
  split at failed
  · cases failed
  · cases failed
    rfl

/-- The arguments of an instance are those that it has alone. -/
theorem exists_own_arguments
    {instances : List (Instance σ)} {globals : Arguments}
    {resolved : List Arguments}
    (resolution : resolveAll instances globals = .ok resolved)
    {position : Nat} {bound : Instance σ}
    (found : instances[position]? = some bound) :
    ∃ own, resolveAll [bound] globals = .ok [own] ∧
      resolved[position]? = some own := by
  obtain ⟨agreeing, wellBound, rfl⟩ := resolveAll_eq_ok_iff.mp resolution
  have member : bound ∈ instances := List.mem_of_getElem? found
  have ownAgreeing : Agreeing [bound] :=
    agreeing.of_subset (List.forall_mem_singleton.mpr member)
  have ownWellBound : ∀ other ∈ [bound], WellBound globals other :=
    List.forall_mem_singleton.mpr (wellBound bound member)
  refine ⟨argumentsFrom globals bound, ?_, by simp [found]⟩
  exact resolveAll_eq_ok_iff.mpr ⟨ownAgreeing, ownWellBound, rfl⟩

theorem filter_reportsOf
    {instances : List (Instance σ)} (agreeing : Agreeing instances)
    (globals : Arguments) {position : Nat} {bound : Instance σ}
    (found : instances[position]? = some bound) :
    (reportsOf (resolveAll instances globals)).filter
        (·.position == position) =
      (reportsOf (resolveAll [bound] globals)).map (·.moved position) := by
  have ownAgreeing : Agreeing [bound] :=
    agreeing.of_subset
      (List.forall_mem_singleton.mpr (List.mem_of_getElem? found))
  have ofSuite := filter_faults found globals 0
  rw [Nat.zero_add] at ofSuite
  rw [reportsOf_resolveAll agreeing, reportsOf_resolveAll ownAgreeing,
    ← faults_moved, ofSuite, faults_eq_flatMap]
  exact (List.append_nil _).symm

end Resolution

namespace Suite

open Resolution

/-! ## Runs -/

theorem run_of_dependsOnArguments
    {instances : List (Instance σ)} {globals : Arguments}
    {resolved : List Arguments}
    (argumentsOnly : ∀ bound ∈ instances, bound.DependsOnArguments)
    (resolution : resolveAll instances globals = .ok resolved)
    (name : Option String) (clock : σ → Instant × σ) (state reference : σ) :
    ∃ report,
      ((⟨name, instances⟩ : Suite σ).run globals clock state).1 =
          .ok report ∧
        report.entries = (instances.zip resolved).map fun task =>
          (Invocation.of task.1 task.2 reference).entry := by
  rcases ran : (⟨name, instances⟩ : Suite σ).run globals clock state with
    ⟨error | report, final⟩
  · have failed := (run_eq_error ran).1
    rw [resolution] at failed
    cases failed
  · obtain ⟨_, alsoResolved, rfl, _⟩ := run_eq_ok ran
    obtain rfl := Except.ok.inj (resolution.symm.trans alsoResolved)
    let journal := (instances.zip resolved).map fun task =>
      Invocation.of task.1 task.2 reference
    have listed : journal.map Invocation.bound = instances := by
      rw [List.map_map]
      exact List.map_fst_zip
        (Nat.le_of_eq (resolveAll_length resolution).symm)
    have tasksDepend : ∀ task ∈ instances.zip resolved,
        task.1.DependsOnArguments :=
      fun task member => argumentsOnly task.1 (List.of_mem_zip member).1
    have results : (runInOrder (instances.zip resolved) (clock state).2).1 =
        journal.map Invocation.result := by
      rw [runInOrder_results_of_dependsOnArguments tasksDepend _ reference,
        List.map_map]
      rfl
    refine ⟨_, rfl, ?_⟩
    rw [results, entries_map_result listed, List.map_map]
    rfl

theorem run_append
    {left right : List (Instance σ)} {globals : Arguments}
    {ofLeft ofRight : List Arguments}
    (argumentsOnly : ∀ bound ∈ left ++ right, bound.DependsOnArguments)
    (leftResolved : resolveAll left globals = .ok ofLeft)
    (rightResolved : resolveAll right globals = .ok ofRight)
    (together : resolveAll (left ++ right) globals = .ok (ofLeft ++ ofRight))
    (name leftName rightName : Option String) (clock : σ → Instant × σ)
    (state leftState rightState : σ) :
    ∃ report leftReport rightReport,
      ((⟨name, left ++ right⟩ : Suite σ).run globals clock state).1 =
          .ok report ∧
        ((⟨leftName, left⟩ : Suite σ).run globals clock leftState).1 =
          .ok leftReport ∧
        ((⟨rightName, right⟩ : Suite σ).run globals clock rightState).1 =
          .ok rightReport ∧
        report.entries = leftReport.entries ++ rightReport.entries := by
  obtain ⟨ofLeftOnly, ofRightOnly⟩ := List.forall_mem_append.mp argumentsOnly
  have aligned := resolveAll_length leftResolved
  -- one reference state for the three runs, so that their entries compare
  obtain ⟨report, ran, entries⟩ :=
    run_of_dependsOnArguments argumentsOnly together name clock state state
  obtain ⟨leftReport, leftRan, leftEntries⟩ := run_of_dependsOnArguments
    ofLeftOnly leftResolved leftName clock leftState state
  obtain ⟨rightReport, rightRan, rightEntries⟩ := run_of_dependsOnArguments
    ofRightOnly rightResolved rightName clock rightState state
  refine ⟨report, leftReport, rightReport, ran, leftRan, rightRan, ?_⟩
  rw [entries, leftEntries, rightEntries, List.zip_append aligned.symm,
    List.map_append]

/-- The arguments, the reports and the entry of an instance are those of a
suite that has no other instance. -/
structure StandsAlone (globals : Arguments) (instances : List (Instance σ))
    (position : Nat) (bound : Instance σ) : Prop where
  arguments : ∀ resolved, resolveAll instances globals = .ok resolved →
    ∃ own, resolveAll [bound] globals = .ok [own] ∧
      resolved[position]? = some own
  reports :
    (reportsOf (resolveAll instances globals)).filter
        (·.position == position) =
      (reportsOf (resolveAll [bound] globals)).map (·.moved position)
  entry : (∀ other ∈ instances, other.DependsOnArguments) →
    ∀ resolved, resolveAll instances globals = .ok resolved →
      ∀ (name ownName : Option String) (clock : σ → Instant × σ)
        (state ownState : σ), ∃ report own entry,
          ((⟨name, instances⟩ : Suite σ).run globals clock state).1 =
              .ok report ∧
            ((⟨ownName, [bound]⟩ : Suite σ).run globals clock ownState).1 =
              .ok own ∧
            report.entries[position]? = some entry ∧ own.entries = [entry]

theorem standsAlone
    {instances : List (Instance σ)} (agreeing : Agreeing instances)
    (globals : Arguments) {position : Nat} {bound : Instance σ}
    (found : instances[position]? = some bound) :
    StandsAlone globals instances position bound where
  arguments := fun _ resolution => exists_own_arguments resolution found
  reports := filter_reportsOf agreeing globals found
  entry := by
    intro argumentsOnly resolved resolution name ownName clock state ownState
    obtain ⟨own, ownResolution, atPosition⟩ :=
      exists_own_arguments resolution found
    have ownArgumentsOnly : ∀ other ∈ [bound], other.DependsOnArguments :=
      List.forall_mem_singleton.mpr
        (argumentsOnly bound (List.mem_of_getElem? found))
    obtain ⟨report, ran, entries⟩ := run_of_dependsOnArguments argumentsOnly
      resolution name clock state state
    obtain ⟨ownReport, ownRan, ownEntries⟩ := run_of_dependsOnArguments
      ownArgumentsOnly ownResolution ownName clock ownState state
    refine ⟨report, ownReport, _, ran, ownRan, ?_, ownEntries⟩
    have together : (instances.zip resolved)[position]? = some (bound, own) :=
      List.getElem?_zip_eq_some.mpr ⟨found, atPosition⟩
    rw [entries, List.getElem?_map, together]
    rfl

/-- Suites compose.  As long as their placeholders agree, two lists of instances
resolve together exactly when each of them does, fail with the reports of both
and run to the entries of both; what an instance contributes does not depend on
the others. -/
theorem append_composes
    {left right : List (Instance σ)} (agreeing : Agreeing (left ++ right))
    (globals : Arguments) :
    ((∃ resolved, resolveAll (left ++ right) globals = .ok resolved) ↔
      (∃ resolved, resolveAll left globals = .ok resolved) ∧
        ∃ resolved, resolveAll right globals = .ok resolved) ∧
      (∀ ofLeft ofRight, resolveAll left globals = .ok ofLeft →
        resolveAll right globals = .ok ofRight →
        resolveAll (left ++ right) globals = .ok (ofLeft ++ ofRight)) ∧
      (∀ error, resolveAll (left ++ right) globals = .error error →
        error = .unresolved (reportsOf (resolveAll left globals) ++
          (reportsOf (resolveAll right globals)).map
            (·.moved left.length))) ∧
      ((∀ bound ∈ left ++ right, bound.DependsOnArguments) →
        ∀ ofLeft ofRight, resolveAll left globals = .ok ofLeft →
          resolveAll right globals = .ok ofRight →
          ∀ (name leftName rightName : Option String)
            (clock : σ → Instant × σ) (state leftState rightState : σ),
            ∃ report leftReport rightReport,
              ((⟨name, left ++ right⟩ : Suite σ).run globals clock state).1 =
                  .ok report ∧
                ((⟨leftName, left⟩ : Suite σ).run globals clock
                  leftState).1 = .ok leftReport ∧
                ((⟨rightName, right⟩ : Suite σ).run globals clock
                  rightState).1 = .ok rightReport ∧
                report.entries =
                  leftReport.entries ++ rightReport.entries) ∧
      ∀ (position : Nat) bound, (left ++ right)[position]? = some bound →
        StandsAlone globals (left ++ right) position bound := by
  have together : ∀ ofLeft ofRight,
      resolveAll left globals = .ok ofLeft →
      resolveAll right globals = .ok ofRight →
      resolveAll (left ++ right) globals = .ok (ofLeft ++ ofRight) := by
    intro ofLeft ofRight leftResolved rightResolved
    exact (resolveAll_append_eq_ok_iff agreeing).mpr
      ⟨ofLeft, ofRight, leftResolved, rightResolved, rfl⟩
  refine ⟨?succeeds, together, fun _ => resolveAll_append_eq_error agreeing,
    ?runs, fun _ _ => standsAlone agreeing globals⟩
  case succeeds =>
    constructor
    · intro ⟨resolved, resolution⟩
      obtain ⟨ofLeft, ofRight, leftResolved, rightResolved, _⟩ :=
        (resolveAll_append_eq_ok_iff agreeing).mp resolution
      exact ⟨⟨ofLeft, leftResolved⟩, ofRight, rightResolved⟩
    · intro ⟨⟨ofLeft, leftResolved⟩, ofRight, rightResolved⟩
      exact ⟨_, together ofLeft ofRight leftResolved rightResolved⟩
  case runs =>
    intro argumentsOnly ofLeft ofRight leftResolved rightResolved
    exact run_append argumentsOnly leftResolved rightResolved
      (together ofLeft ofRight leftResolved rightResolved)

/-- The threshold is wired as well. -/
def limitedInstance : Instance Unit :=
  thresholdInstance.withInput "threshold" ⟨"limit", .float⟩

/-- Both models are wired to one placeholder.  Without a limit the second
instance has a report, and with a limit both are run. -/
theorem append_composes_limited :
    Agreeing ([thresholdInstance] ++ [limitedInstance]) ∧
      (∃ report,
        resolveAll ([thresholdInstance] ++ [limitedInstance])
            thresholdGlobals =
          .error (.unresolved [report]) ∧
        report.position = 1) ∧
      ∃ report,
        ((⟨none, [thresholdInstance] ++ [limitedInstance]⟩ : Suite Unit).run
            (thresholdGlobals.insert "limit" (.json .null))
            (fun state => (⟨0, 0, 0⟩, state)) ()).1 =
          .ok report ∧
        report.entries.map (fun entry => entry.result.passed) =
          [true, true] := by
  have collected :
      collectInputs ([thresholdInstance] ++ [limitedInstance]) =
        .ok [⟨"candidate", .object "Model"⟩, ⟨"limit", .float⟩] := rfl
  have agreeing := agreeing_of_collectInputs collected
  refine ⟨agreeing, ?unresolved, ?entries⟩
  case unresolved =>
    obtain ⟨succeeds, _, fails, _⟩ := append_composes agreeing thresholdGlobals
    have unlimited : resolveAll [limitedInstance] thresholdGlobals =
        .error (.unresolved [⟨0, limitedInstance.identity, "auc",
          [⟨"threshold", .float, some "limit"⟩], []⟩]) := rfl
    cases outcome : resolveAll ([thresholdInstance] ++ [limitedInstance])
        thresholdGlobals with
    | ok resolved =>
        obtain ⟨_, _, limited⟩ := succeeds.mp ⟨resolved, outcome⟩
        rw [unlimited] at limited
        cases limited
    | error error =>
        rw [fails error outcome, unlimited]
        exact ⟨_, rfl, rfl⟩
  case entries =>
    obtain ⟨_, _, _, runs, _⟩ := append_composes agreeing
      (thresholdGlobals.insert "limit" (.json .null))
    have argumentsOnly : ∀ bound ∈ [thresholdInstance] ++ [limitedInstance],
        bound.DependsOnArguments := by
      intro bound member
      rcases List.mem_cons.mp member with rfl | later
      · exact fun _ _ _ => rfl
      · rw [List.mem_singleton.mp later]
        exact fun _ _ _ => rfl
    obtain ⟨report, leftReport, rightReport, ran, leftRan, rightRan,
      entries⟩ := runs argumentsOnly _ _ rfl rfl none none none
        (fun state => (⟨0, 0, 0⟩, state)) () () ()
    refine ⟨report, ran, ?_⟩
    cases leftRan
    cases rightRan
    rw [entries]
    rfl

end Suite

end Assay
