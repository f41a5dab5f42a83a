import Assay.Proofs.Suite.CombinedResolution
import Assay.Suite

/-!
# Invocations of checks

A recorded instance does what its instance does and keeps a journal of its
calls beside the state.  A run of a recorded suite therefore shows which logic
was called, with what, in which state and in which order, and it answers like
the run of the suite itself.
-/

namespace Assay

variable {σ : Type}

/-- One call of the logic of an instance: what it was given, how it ended and
the states before and after it. -/
structure Invocation (σ : Type) where
  bound : Instance σ
  arguments : Arguments
  before : σ
  conclusion : Except Abort Outcome
  after : σ

namespace Invocation

def of (bound : Instance σ) (arguments : Arguments) (state : σ) :
    Invocation σ where
  bound := bound
  arguments := arguments
  before := state
  conclusion := (bound.logic arguments state).1
  after := (bound.logic arguments state).2

/-- The invocation is what the logic really answers. -/
def Genuine (invocation : Invocation σ) : Prop :=
  invocation.bound.logic invocation.arguments invocation.before =
    (invocation.conclusion, invocation.after)

def call (invocation : Invocation σ) : Instance σ × Arguments :=
  (invocation.bound, invocation.arguments)

def result (invocation : Invocation σ) : CheckResult :=
  concludeCheck invocation.bound.metadata.name invocation.conclusion

/-- What a report says of an invocation. -/
def entry (invocation : Invocation σ) : ReportEntry :=
  ⟨invocation.bound.identity, invocation.bound.metadata.displayName,
    invocation.result⟩

/-- Each invocation starts in the state that the one before it left. -/
inductive Consecutive : σ → List (Invocation σ) → σ → Prop where
  | nil (state : σ) : Consecutive state [] state
  | cons {invocation : Invocation σ} {rest : List (Invocation σ)} {final : σ} :
      Consecutive invocation.after rest final →
      Consecutive invocation.before (invocation :: rest) final

end Invocation

theorem Instance.executeWith_eq_of
    (bound : Instance σ) (arguments : Arguments) (state : σ) :
    bound.executeWith arguments state =
      ((Invocation.of bound arguments state).result,
        (Invocation.of bound arguments state).after) :=
  rfl

/-- How the logic of the instance ends depends on nothing but its arguments. -/
def Instance.DependsOnArguments (bound : Instance σ) : Prop :=
  ∀ arguments left right,
    (bound.logic arguments left).1 = (bound.logic arguments right).1

theorem Instance.DependsOnArguments.executeWith_eq
    {bound : Instance σ} (argumentsOnly : bound.DependsOnArguments)
    (arguments : Arguments) (left right : σ) :
    (bound.executeWith arguments left).1 =
      (bound.executeWith arguments right).1 :=
  congrArg (concludeCheck bound.metadata.name)
    (argumentsOnly arguments left right)

/-- The instance with a journal of the calls of its logic. -/
def Instance.recorded (bound : Instance σ) :
    Instance (σ × List (Invocation σ)) where
  metadata := bound.metadata
  bindings := bound.bindings
  logic := fun arguments state =>
    let invocation := Invocation.of bound arguments state.1
    (invocation.conclusion, (invocation.after, state.2 ++ [invocation]))

@[simp] theorem Instance.executeWith_recorded
    (bound : Instance σ) (arguments : Arguments) (state : σ)
    (journal : List (Invocation σ)) :
    bound.recorded.executeWith arguments (state, journal) =
      ((Invocation.of bound arguments state).result,
        ((Invocation.of bound arguments state).after,
          journal ++ [Invocation.of bound arguments state])) :=
  rfl

namespace Suite

/-- The suite with a journal of the calls of all its checks. -/
def recorded (suite : Suite σ) : Suite (σ × List (Invocation σ)) where
  name := suite.name
  instances := suite.instances.map Instance.recorded

@[simp] theorem name_recorded (suite : Suite σ) : suite.recorded.name = suite.name := rfl

/-- Reading the clock is no call and leaves the journal alone. -/
def besideJournal (clock : σ → Instant × σ)
    (state : σ × List (Invocation σ)) :
    Instant × (σ × List (Invocation σ)) :=
  ((clock state.1).1, ((clock state.1).2, state.2))

@[simp] theorem resolveAll_recorded (suite : Suite σ) (globals : Arguments) :
    Resolution.resolveAll suite.recorded.instances globals =
      Resolution.resolveAll suite.instances globals :=
  Resolution.resolveAll_map Instance.recorded (fun _ => rfl) (fun _ => rfl)
    suite.instances globals

/-- A task whose calls are recorded. -/
def recordedTask (task : Instance σ × Arguments) :
    Instance (σ × List (Invocation σ)) × Arguments :=
  (task.1.recorded, task.2)

@[simp] theorem zip_recorded (suite : Suite σ) (resolved : List Arguments) :
    suite.recorded.instances.zip resolved =
      (suite.instances.zip resolved).map recordedTask := by
  simp only [recorded, List.zip_map_left]
  rfl

/-- The calls of tasks that run one after the other. -/
def invocationsOf : List (Instance σ × Arguments) → σ → List (Invocation σ)
  | [], _ => []
  | (bound, arguments) :: rest, state =>
      .of bound arguments state ::
        invocationsOf rest (Invocation.of bound arguments state).after

theorem runInOrder_results
    (tasks : List (Instance σ × Arguments)) (state : σ) :
    (runInOrder tasks state).1 =
      (invocationsOf tasks state).map Invocation.result := by
  induction tasks generalizing state with
  | nil => rfl
  | cons task rest induction =>
      simp only [runInOrder, Instance.executeWith_eq_of, invocationsOf,
        List.map_cons, induction]

theorem runInOrder_results_of_dependsOnArguments
    {tasks : List (Instance σ × Arguments)}
    (argumentsOnly : ∀ task ∈ tasks, task.1.DependsOnArguments)
    (state reference : σ) :
    (runInOrder tasks state).1 =
      tasks.map fun task => (task.1.executeWith task.2 reference).1 := by
  induction tasks generalizing state with
  | nil => rfl
  | cons task rest induction =>
      obtain ⟨ofTask, ofRest⟩ := List.forall_mem_cons.mp argumentsOnly
      rw [List.map_cons, ← induction ofRest,
        ofTask.executeWith_eq task.2 reference state]
      rfl

@[simp] theorem runInOrder_recorded
    (tasks : List (Instance σ × Arguments)) (state : σ)
    (journal : List (Invocation σ)) :
    runInOrder (tasks.map recordedTask) (state, journal) =
      ((runInOrder tasks state).1,
        ((runInOrder tasks state).2, journal ++ invocationsOf tasks state)) := by
  induction tasks generalizing state journal with
  | nil => simp [runInOrder, invocationsOf]
  | cons task rest induction =>
      simp only [List.map_cons, recordedTask, runInOrder,
        Instance.executeWith_recorded, induction]
      simp only [Instance.executeWith_eq_of, invocationsOf,
        List.append_assoc, List.singleton_append]

/-- The calls of later tasks begin in the state that the earlier ones leave. -/
theorem invocationsOf_append
    (earlier later : List (Instance σ × Arguments)) (state : σ) :
    invocationsOf (earlier ++ later) state =
      invocationsOf earlier state ++
        invocationsOf later (runInOrder earlier state).2 := by
  induction earlier generalizing state with
  | nil => rfl
  | cons task rest induction =>
      rw [List.cons_append, invocationsOf, induction]
      rfl

theorem getElem?_invocationsOf
    {tasks : List (Instance σ × Arguments)} {position : Nat}
    {task : Instance σ × Arguments} (found : tasks[position]? = some task) (state : σ) :
    (invocationsOf tasks state)[position]? =
      some (.of task.1 task.2 (runInOrder (tasks.take position) state).2) := by
  induction tasks generalizing position state with
  | nil => simp at found
  | cons first rest induction =>
      cases position with
      | zero =>
          obtain rfl : first = task := by simpa using found
          rfl
      | succ position =>
          rw [List.getElem?_cons_succ] at found
          rw [invocationsOf, List.getElem?_cons_succ, induction found]
          rfl

theorem map_call_invocationsOf
    (tasks : List (Instance σ × Arguments)) (state : σ) :
    (invocationsOf tasks state).map Invocation.call = tasks := by
  induction tasks generalizing state with
  | nil => rfl
  | cons task rest induction =>
      rw [invocationsOf, List.map_cons, induction]
      rfl

theorem genuine_of_mem_invocationsOf
    {tasks : List (Instance σ × Arguments)} {state : σ}
    {invocation : Invocation σ}
    (member : invocation ∈ invocationsOf tasks state) :
    invocation.Genuine := by
  induction tasks generalizing state with
  | nil => cases member
  | cons task rest induction =>
      rcases List.mem_cons.mp member with rfl | later
      · rfl
      · exact induction later

theorem consecutive_invocationsOf
    (tasks : List (Instance σ × Arguments)) (state : σ) :
    Invocation.Consecutive state (invocationsOf tasks state)
      (runInOrder tasks state).2 := by
  induction tasks generalizing state with
  | nil => exact .nil state
  | cons task rest induction =>
      exact @Invocation.Consecutive.cons σ (.of task.1 task.2 state) _ _
        (induction _)

@[simp] theorem entries_recorded
    (suite : Suite σ) (results : List CheckResult) :
    entries suite.recorded.instances results =
      entries suite.instances results := by
  rw [recorded, entries, List.zip_map_left, List.map_map]
  rfl

/-- With one invocation for every instance, the entries of a report are those
of the invocations. -/
theorem entries_map_result
    {instances : List (Instance σ)} {journal : List (Invocation σ)}
    (listed : journal.map Invocation.bound = instances) :
    entries instances (journal.map Invocation.result) =
      journal.map Invocation.entry := by
  subst listed
  rw [entries, List.zip_map', List.map_map]
  rfl

/-- A journal of one genuine call for every instance, in the order of the
instances, each with the arguments of its instance. -/
structure CallsInOrder (instances : List (Instance σ))
    (resolved : List Arguments) (start : σ) (journal : List (Invocation σ))
    (finish : σ) : Prop where
  aligned : resolved.length = instances.length
  calls : journal.map Invocation.call = instances.zip resolved
  genuine : ∀ invocation ∈ journal, invocation.Genuine
  consecutive : Invocation.Consecutive start journal finish

theorem callsInOrder_invocationsOf
    {instances : List (Instance σ)} {resolved : List Arguments}
    (aligned : resolved.length = instances.length) (start : σ) :
    CallsInOrder instances resolved start
      (invocationsOf (instances.zip resolved) start)
      (runInOrder (instances.zip resolved) start).2 where
  aligned := aligned
  calls := map_call_invocationsOf _ start
  genuine := fun _ => genuine_of_mem_invocationsOf
  consecutive := consecutive_invocationsOf _ start

theorem CallsInOrder.map_bound
    {instances : List (Instance σ)} {resolved : List Arguments}
    {start finish : σ} {journal : List (Invocation σ)}
    (inOrder : CallsInOrder instances resolved start journal finish) :
    journal.map Invocation.bound = instances := by
  have projected := congrArg (List.map Prod.fst) inOrder.calls
  rw [List.map_map, List.map_fst_zip (Nat.le_of_eq inOrder.aligned.symm)]
    at projected
  exact projected

theorem run_eq_error
    {suite : Suite σ} {globals : Arguments} {clock : σ → Instant × σ}
    {state final : σ} {error : BindingError}
    (outcome : suite.run globals clock state = (.error error, final)) :
    Resolution.resolveAll suite.instances globals = .error error ∧
      final = state := by
  cases resolution : Resolution.resolveAll suite.instances globals with
  | error problem =>
      simp only [run, resolution, Prod.mk.injEq, Except.error.injEq] at outcome
      exact ⟨congrArg _ outcome.1, outcome.2.symm⟩
  | ok resolved => simp [run, resolution] at outcome

theorem run_eq_ok
    {suite : Suite σ} {globals : Arguments} {clock : σ → Instant × σ}
    {state final : σ} {report : Report}
    (outcome : suite.run globals clock state = (.ok report, final)) :
    ∃ resolved, Resolution.resolveAll suite.instances globals = .ok resolved ∧
      let ran := runInOrder (suite.instances.zip resolved) (clock state).2
      report = ⟨suite.name, entries suite.instances ran.1, (clock state).1,
        (clock ran.2).1⟩ ∧
      final = (clock ran.2).2 := by
  cases resolution : Resolution.resolveAll suite.instances globals with
  | error problem => simp [run, resolution] at outcome
  | ok resolved =>
      simp only [run, resolution, Prod.mk.injEq, Except.ok.injEq] at outcome
      exact ⟨resolved, rfl, outcome.1.symm, outcome.2.symm⟩

/-- The entries of a report are those of the calls of its run. -/
theorem run_entries
    {suite : Suite σ} {globals : Arguments} {clock : σ → Instant × σ}
    {state final : σ} {report : Report}
    (ran : suite.run globals clock state = (.ok report, final)) :
    ∃ resolved, Resolution.resolveAll suite.instances globals = .ok resolved ∧
      report.entries =
        (invocationsOf (suite.instances.zip resolved) (clock state).2).map
          Invocation.entry := by
  obtain ⟨resolved, resolution, rfl, _⟩ := run_eq_ok ran
  have inOrder := callsInOrder_invocationsOf
    (Resolution.resolveAll_length resolution) (clock state).2
  refine ⟨resolved, resolution, ?_⟩
  rw [← entries_map_result inOrder.map_bound, ← runInOrder_results]

/-- A run that can resolve all arguments answers the same when its calls are
recorded, and the journal has the calls that follow the first look at the
clock. -/
theorem run_recorded
    {suite : Suite σ} {globals : Arguments} {resolved : List Arguments}
    (resolution : Resolution.resolveAll suite.instances globals = .ok resolved)
    (clock : σ → Instant × σ) (state : σ) :
    suite.recorded.run globals (besideJournal clock) (state, []) =
      ((suite.run globals clock state).1, ((suite.run globals clock state).2,
        invocationsOf (suite.instances.zip resolved) (clock state).2)) := by
  simp [run, resolution, besideJournal]

/-- A run that cannot resolve all arguments calls nothing and leaves the state
alone.  Any other run calls every instance once, in order, whatever the calls
end with, and each entry of its report is that of the call at its position. -/
theorem run_calls_each_instance_in_order
    (suite : Suite σ) (globals : Arguments) (clock : σ → Instant × σ)
    (state : σ) :
    (∀ error final, suite.run globals clock state = (.error error, final) →
      final = state ∧
        suite.recorded.run globals (besideJournal clock) (state, []) =
          (.error error, (state, []))) ∧
      ∀ report final, suite.run globals clock state = (.ok report, final) →
        ∃ resolved journal reached,
          Resolution.resolveAll suite.instances globals = .ok resolved ∧
            CallsInOrder suite.instances resolved (clock state).2 journal
              reached ∧
            final = (clock reached).2 ∧
            suite.recorded.run globals (besideJournal clock) (state, []) =
              (.ok report, (final, journal)) ∧
            report.entries.length = suite.size ∧
            report.entries = journal.map Invocation.entry := by
  constructor
  · intro error final outcome
    obtain ⟨unresolved, same⟩ := run_eq_error outcome
    refine ⟨same, ?_⟩
    rw [← resolveAll_recorded] at unresolved
    simp only [run, unresolved]
  · intro report final outcome
    obtain ⟨resolved, resolution, rfl, rfl⟩ := run_eq_ok outcome
    have recordedRun := run_recorded resolution clock state
    rw [outcome] at recordedRun
    have inOrder := callsInOrder_invocationsOf
      (Resolution.resolveAll_length resolution) (clock state).2
    have entriesOfCalls := entries_map_result inOrder.map_bound
    rw [← runInOrder_results] at entriesOfCalls
    refine ⟨resolved, _, _, resolution, inOrder, rfl, recordedRun, ?_, entriesOfCalls⟩
    rw [entriesOfCalls, List.length_map, ← List.length_map, inOrder.map_bound]
    rfl

end Suite

end Assay
