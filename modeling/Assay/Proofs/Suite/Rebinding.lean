import Assay.Proofs.Suite.Composition
import Mathlib.Logic.Function.Basic

/-!
# Instances made from instances

Whoever holds instances makes others of them: by a value or a shared input for a
name, or with bindings put over those that are there, also on the way into a
suite.  An instance has the definition of the one that it goes back to and, for
every name, the binding that was given last on the way.  All other instances stay
as they are, and so does what they contribute to a suite.
-/

namespace Assay

variable {σ : Type}

/-! ## Bindings over bindings -/

namespace Instance

theorem find?_rebuild
    (bound : Instance σ) (overrides : List (String × Binding)) (name : String) :
    (bound.rebuild overrides).bindings.find? name =
      (NameTable.lastOf? name overrides).or (bound.bindings.find? name) :=
  NameTable.find?_insertAll bound.bindings overrides name

theorem rebuild_rebuild
    (bound : Instance σ) (earlier later : List (String × Binding)) :
    (bound.rebuild earlier).rebuild later = bound.rebuild (earlier ++ later) := by
  simp only [rebuild, NameTable.insertAll_append]

theorem foldl_rebuild (bound : Instance σ) (chain : List (List (String × Binding))) :
    chain.foldl rebuild bound = bound.rebuild chain.flatten := by
  induction chain generalizing bound with
  | nil => rfl
  | cons overrides rest induction =>
      rw [List.foldl_cons, induction, rebuild_rebuild, List.flatten_cons]

end Instance

/-! ## What is at hand -/

/-- A step from one instance to another. -/
inductive Rebinding where
  | value (name : String) (content : ArgumentValue)
  | input (name : String) (placeholder : SuiteInput)
  | rebuild (overrides : List (String × Binding))
  /-- The step into the suite that has a label. -/
  | addWith (suite : String) (overrides : List (String × Binding))

/-- What a step binds, in order. -/
def Rebinding.given : Rebinding → List (String × Binding)
  | .value name content => [(name, .value content)]
  | .input name placeholder => [(name, .input placeholder)]
  | .rebuild overrides => overrides
  | .addWith _ overrides => overrides

/-- A step from the instance under one label to what is kept under another one, or
under the same. -/
structure Assignment where
  target : String
  source : String
  rebinding : Rebinding

/-- Instances and suites under labels. -/
structure Workbench (σ : Type) where
  instances : String → Instance σ
  suites : String → Suite σ

namespace Workbench

def keep (bench : Workbench σ) (label : String) (bound : Instance σ) : Workbench σ :=
  { bench with instances := Function.update bench.instances label bound }

/-- Make one step.  An instance that goes into a suite is at hand as well. -/
def perform (bench : Workbench σ) (assignment : Assignment) : Workbench σ :=
  let bound := bench.instances assignment.source
  match assignment.rebinding with
  | .value name content => bench.keep assignment.target (bound.withValue name content)
  | .input name placeholder =>
      bench.keep assignment.target (bound.withInput name placeholder)
  | .rebuild overrides => bench.keep assignment.target (bound.rebuild overrides)
  | .addWith label overrides =>
      let extended := (bench.suites label).addWith bound overrides
      { bench.keep assignment.target (extended.instances.getLastD bound) with
        suites := Function.update bench.suites label extended }

def performAll : List Assignment → Workbench σ → Workbench σ
  | [], bench => bench
  | assignment :: rest, bench => performAll rest (bench.perform assignment)

/-- Whichever way a step goes, its instance has the bindings that it gives put over
those of its source. -/
theorem instances_perform (bench : Workbench σ) (assignment : Assignment) :
    (bench.perform assignment).instances =
      Function.update bench.instances assignment.target
        ((bench.instances assignment.source).rebuild assignment.rebinding.given) := by
  obtain ⟨target, source, rebinding⟩ := assignment
  cases rebinding with
  | value name content => rfl
  | input name placeholder => rfl
  | rebuild overrides => rfl
  | addWith label overrides => simp [perform, keep, Suite.addWith, Suite.add, Rebinding.given]

end Workbench

/-! ## Where instances come from -/

/-- The label that an instance goes back to, and all that was given on the way. -/
structure Lineage where
  origin : String
  given : List (String × Binding)

namespace Assignment

/-- The lineages after a step. -/
def trace (assignment : Assignment) (lineages : String → Lineage) : String → Lineage :=
  Function.update lineages assignment.target
    ⟨(lineages assignment.source).origin,
      (lineages assignment.source).given ++ assignment.rebinding.given⟩

def traceAll : List Assignment → (String → Lineage) → (String → Lineage)
  | [], lineages => lineages
  | assignment :: rest, lineages => traceAll rest (assignment.trace lineages)

/-- The lineage of what is under a label after some steps. -/
def lineage (assignments : List Assignment) : String → Lineage :=
  traceAll assignments fun label => ⟨label, []⟩

theorem traceAll_of_untouched
    {assignments : List Assignment} {label : String}
    (untouched : ∀ assignment ∈ assignments, assignment.target ≠ label)
    (lineages : String → Lineage) :
    traceAll assignments lineages label = lineages label := by
  induction assignments generalizing lineages with
  | nil => rfl
  | cons assignment rest induction =>
      obtain ⟨different, restUntouched⟩ := List.forall_mem_cons.mp untouched
      rw [traceAll, induction restUntouched, trace,
        Function.update_of_ne (Ne.symm different)]

theorem traceAll_of_chain
    {assignments : List Assignment} {label : String}
    (chain : ∀ assignment ∈ assignments,
      assignment.source = label ∧ assignment.target = label)
    (lineages : String → Lineage) :
    traceAll assignments lineages label =
      ⟨(lineages label).origin,
        (lineages label).given ++ assignments.flatMap (·.rebinding.given)⟩ := by
  induction assignments generalizing lineages with
  | nil => simp [traceAll]
  | cons assignment rest induction =>
      obtain ⟨⟨fromLabel, toLabel⟩, restChain⟩ := List.forall_mem_cons.mp chain
      rw [traceAll, induction restChain, trace, fromLabel, toLabel,
        Function.update_self, List.flatMap_cons, List.append_assoc]

end Assignment

namespace Workbench

open Assignment

/-- Every instance is the one that it goes back to, with what was given on the way
put over its bindings. -/
def Follows (bench initial : Workbench σ) (lineages : String → Lineage) : Prop :=
  ∀ label, bench.instances label =
    (initial.instances (lineages label).origin).rebuild (lineages label).given

theorem Follows.perform
    {bench initial : Workbench σ} {lineages : String → Lineage}
    (follows : bench.Follows initial lineages) (assignment : Assignment) :
    (bench.perform assignment).Follows initial (assignment.trace lineages) := by
  intro label
  rw [instances_perform, trace]
  by_cases target : label = assignment.target
  · subst target
    rw [Function.update_self, Function.update_self, follows assignment.source,
      Instance.rebuild_rebuild]
  · rw [Function.update_of_ne target, Function.update_of_ne target]
    exact follows label

theorem Follows.performAll
    {bench initial : Workbench σ} {lineages : String → Lineage}
    (follows : bench.Follows initial lineages) (assignments : List Assignment) :
    (Workbench.performAll assignments bench).Follows initial
      (traceAll assignments lineages) := by
  induction assignments generalizing bench lineages with
  | nil => exact follows
  | cons assignment rest induction => exact induction (follows.perform assignment)

theorem performAll_follows (assignments : List Assignment) (initial : Workbench σ) :
    (Workbench.performAll assignments initial).Follows initial (lineage assignments) :=
  Follows.performAll (fun _ => rfl) assignments

theorem instances_performAll_of_untouched
    {assignments : List Assignment} {label : String}
    (untouched : ∀ assignment ∈ assignments, assignment.target ≠ label)
    (initial : Workbench σ) :
    (performAll assignments initial).instances label = initial.instances label := by
  rw [performAll_follows assignments initial label, lineage,
    traceAll_of_untouched untouched]
  rfl

end Workbench

/-! ## What instances contribute to suites -/

namespace Suite

open Resolution

/-- What a suite has from the instance at a position, whatever else is in the suite:
the arguments that the instance has alone, and an entry that tells how its logic ended
with them, called when the instances before it have been. -/
structure Shows (suite : Suite σ) (position : Nat) (bound : Instance σ) : Prop where
  arguments : ∀ globals resolved, resolveAll suite.instances globals = .ok resolved →
    ∃ own, resolveAll [bound] globals = .ok [own] ∧ resolved[position]? = some own
  entry : ∀ globals (clock : σ → Instant × σ) state report final,
    suite.run globals clock state = (.ok report, final) →
      ∃ resolved own, resolveAll suite.instances globals = .ok resolved ∧
        resolveAll [bound] globals = .ok [own] ∧
        let before := runInOrder ((suite.instances.zip resolved).take position) (clock state).2
        report.entries[position]? = some (Invocation.of bound own before.2).entry

theorem shows_of_getElem?
    {suite : Suite σ} {position : Nat} {bound : Instance σ}
    (found : suite.instances[position]? = some bound) :
    suite.Shows position bound where
  arguments := fun _ _ resolution => exists_own_arguments resolution found
  entry := by
    intro globals clock state report final ran
    obtain ⟨resolved, resolution, entries⟩ := run_entries ran
    obtain ⟨own, ownResolution, atPosition⟩ := exists_own_arguments resolution found
    have task : (suite.instances.zip resolved)[position]? = some (bound, own) :=
      List.getElem?_zip_eq_some.mpr ⟨found, atPosition⟩
    refine ⟨resolved, own, resolution, ownResolution, ?_⟩
    rw [entries, List.getElem?_map, getElem?_invocationsOf task]
    rfl

/-- A suite with more instances behind its own: what it resolves and the report of a run
begin as without them. -/
structure KeptIn (suite grown : Suite σ) : Prop where
  name : grown.name = suite.name
  instances : suite.instances <+: grown.instances
  arguments : ∀ globals resolved, resolveAll grown.instances globals = .ok resolved →
    ∃ own, resolveAll suite.instances globals = .ok own ∧ own <+: resolved
  entries : ∀ globals (clock : σ → Instant × σ) state report final,
    grown.run globals clock state = (.ok report, final) →
      ∃ own ownFinal, suite.run globals clock state = (.ok own, ownFinal) ∧
        own.entries <+: report.entries

theorem resolveAll_of_prefix
    {some all : List (Instance σ)} (first : some <+: all) {globals : Arguments}
    {resolved : List Arguments} (resolution : resolveAll all globals = .ok resolved) :
    ∃ own, resolveAll some globals = .ok own ∧ own <+: resolved := by
  obtain ⟨agreeing, wellBound, rfl⟩ := resolveAll_eq_ok_iff.mp resolution
  refine ⟨some.map (argumentsFrom globals), ?_, first.map _⟩
  exact resolveAll_eq_ok_iff.mpr
    ⟨agreeing.of_subset fun _ member => first.subset member,
      fun bound member => wellBound bound (first.subset member), rfl⟩

theorem keptIn_of_prefix
    {suite grown : Suite σ} (sameName : grown.name = suite.name)
    (first : suite.instances <+: grown.instances) :
    suite.KeptIn grown where
  name := sameName
  instances := first
  arguments := fun _ _ => resolveAll_of_prefix first
  entries := by
    intro globals clock state report final ran
    obtain ⟨resolved, resolution, entries⟩ := run_entries ran
    obtain ⟨own, ownResolution, rest, rfl⟩ := resolveAll_of_prefix first resolution
    obtain ⟨added, shape⟩ := first
    rcases ownRan : suite.run globals clock state with ⟨error | ownReport, ownFinal⟩
    · have failed := (run_eq_error ownRan).1
      rw [ownResolution] at failed
      contradiction
    · obtain ⟨_, alsoResolved, ownEntries⟩ := run_entries ownRan
      obtain rfl := Except.ok.inj (ownResolution.symm.trans alsoResolved)
      have aligned := resolveAll_length ownResolution
      refine ⟨ownReport, ownFinal, rfl, ?_⟩
      rw [entries, ownEntries, ← shape, List.zip_append aligned.symm, invocationsOf_append,
        List.map_append]
      exact List.prefix_append _ _

end Suite

namespace Workbench

open Assignment

/-- A step adds to the end of a suite, if to any. -/
theorem suites_perform (bench : Workbench σ) (assignment : Assignment) (label : String) :
    ((bench.perform assignment).suites label).name = (bench.suites label).name ∧
      (bench.suites label).instances <+:
        ((bench.perform assignment).suites label).instances := by
  obtain ⟨target, source, rebinding⟩ := assignment
  cases rebinding with
  | value name content => exact ⟨rfl, List.prefix_rfl⟩
  | input name placeholder => exact ⟨rfl, List.prefix_rfl⟩
  | rebuild overrides => exact ⟨rfl, List.prefix_rfl⟩
  | addWith other overrides =>
      by_cases own : label = other
      · subst own
        have grown : (bench.perform ⟨target, source, .addWith label overrides⟩).suites label =
            (bench.suites label).addWith (bench.instances source) overrides :=
          Function.update_self _ _ _
        rw [grown]
        exact ⟨rfl, List.prefix_append _ _⟩
      · have kept : (bench.perform ⟨target, source, .addWith other overrides⟩).suites label =
            bench.suites label :=
          Function.update_of_ne own _ _
        rw [kept]
        exact ⟨rfl, List.prefix_rfl⟩

theorem suites_performAll
    (assignments : List Assignment) (bench : Workbench σ) (label : String) :
    ((performAll assignments bench).suites label).name = (bench.suites label).name ∧
      (bench.suites label).instances <+:
        ((performAll assignments bench).suites label).instances := by
  induction assignments generalizing bench with
  | nil => exact ⟨rfl, List.prefix_rfl⟩
  | cons assignment rest induction =>
      obtain ⟨name, first⟩ := bench.suites_perform assignment label
      obtain ⟨restName, restFirst⟩ := induction (bench.perform assignment)
      exact ⟨restName.trans name, first.trans restFirst⟩

/-- After any steps, each of them from any instance at hand: an instance has the
definition of the one that it goes back to and, for every name, the last binding on its
way or else that of its origin, and refers to no other placeholders.  Steps that all
replace one instance give in turn what each of them gives, and rebuilding repeatedly is
rebuilding once.  An instance that no step replaces stays, and shows in any suite as it
did; suites keep what they had, with arguments and results. -/
theorem performAll_merges_and_keeps
    (assignments : List Assignment) (initial : Workbench σ) :
    let final := performAll assignments initial
    (∀ label,
        let origin := initial.instances (lineage assignments label).origin
        let last := fun name =>
          (NameTable.lastOf? name (lineage assignments label).given).or
            (origin.bindings.find? name)
        let made := final.instances label
        made.metadata = origin.metadata ∧ made.logic = origin.logic ∧
          (∀ name, made.bindings.find? name = last name) ∧
          ∀ placeholder, placeholder ∈ made.inputs ↔
            ∃ name, last name = some (.input placeholder)) ∧
      (∀ label, (∀ assignment ∈ assignments,
          assignment.source = label ∧ assignment.target = label) →
        lineage assignments label =
          ⟨label, assignments.flatMap (·.rebinding.given)⟩) ∧
      (∀ (bound : Instance σ) (chain : List (List (String × Binding))),
        chain.foldl Instance.rebuild bound = bound.rebuild chain.flatten) ∧
      (∀ label, (∀ assignment ∈ assignments, assignment.target ≠ label) →
        final.instances label = initial.instances label ∧
          ∀ (suite : Suite σ) position,
            suite.instances[position]? = some (final.instances label) →
              suite.Shows position (initial.instances label)) ∧
      ∀ label, (initial.suites label).KeptIn (final.suites label) := by
  intro final
  refine ⟨?merges, ?chain, Instance.foldl_rebuild, ?untouched, ?suites⟩
  case merges =>
    intro label origin last made
    have follows : made = origin.rebuild (lineage assignments label).given :=
      performAll_follows assignments initial label
    have found : ∀ name, made.bindings.find? name = last name := by
      intro name
      rw [follows]
      exact origin.find?_rebuild _ name
    refine ⟨by rw [follows]; rfl, by rw [follows]; rfl, found, ?_⟩
    intro placeholder
    simp [found]
  case chain =>
    intro label chain
    exact traceAll_of_chain chain _
  case untouched =>
    intro label untouched
    have same : final.instances label = initial.instances label :=
      instances_performAll_of_untouched untouched initial
    refine ⟨same, ?_⟩
    intro suite position found
    exact Suite.shows_of_getElem? (same ▸ found)
  case suites =>
    intro label
    obtain ⟨name, first⟩ := suites_performAll assignments initial label
    exact Suite.keptIn_of_prefix name first

end Workbench

end Assay
