import Assay.Proofs.Suite.Pool.Completion
import Assay.Proofs.Suite.Pool.Journal

/-!
# Parallel runs against runs in order

A schedule and the completion after it are one sequence of turns that finishes
every job.  The results of a finished pool are read off by position, so they
are those of a run in order as soon as the checks depend on nothing but their
arguments.  All of this holds of a pool that is there: for more workers than
permits can be counted none is made, and the run crashes.
-/

namespace Assay

variable {σ : Type}

namespace Pool

section Making

variable {workers : Nat} {tasks : List (Instance σ × Arguments)} {state : σ}

theorem max_le_permitLimit_iff : max workers 1 ≤ permitLimit ↔ workers ≤ permitLimit := by
  have positive : 1 ≤ permitLimit := by decide
  rw [Nat.max_le, and_iff_left positive]

theorem create_of_le (countable : workers ≤ permitLimit) :
    create workers tasks state = some (ready (max workers 1) tasks state) :=
  if_pos (max_le_permitLimit_iff.mpr countable)

theorem create_of_lt (uncountable : permitLimit < workers) :
    create workers tasks state = none :=
  if_neg (mt max_le_permitLimit_iff.mp (Nat.not_le_of_lt uncountable))

end Making

variable (permits : Nat) (tasks : List (Instance σ × Arguments)) (state : σ)

@[simp] theorem tasks_ready :
    (ready permits tasks state).jobs.map Job.task = tasks := by
  simp only [ready, List.map_map]
  exact List.map_id tasks

@[simp] theorem permitsTaken_ready : (ready permits tasks state).permitsTaken = 0 := by
  simp [ready, permitsTaken, List.countP_map, Function.comp_def,
    Job.holdsPermit]

@[simp] theorem startedTasks_ready : (ready permits tasks state).startedTasks = [] := by
  simp [ready, startedTasks, Job.startedTask?]

theorem truthful_ready :
    ∀ job ∈ (ready permits tasks state).jobs, job.Truthful := by
  intro job member
  obtain ⟨task, _, rfl⟩ := List.mem_map.mp member
  trivial

/-- The pool at the end of a parallel run. -/
def finalPool (schedule : List Turn) : Pool σ :=
  ((ready permits tasks state).takeAll schedule).complete

/-- The calls of a parallel run. -/
def finalCalls (schedule : List Turn) : List (Invocation σ) :=
  (ready permits tasks state).calledAll (schedule ++ completion tasks.length)

variable (schedule : List Turn)

theorem finalPool_eq_takeAll :
    finalPool permits tasks state schedule =
      (ready permits tasks state).takeAll
        (schedule ++ completion tasks.length) := by
  rw [finalPool, complete, takeAll_length, takeAll_append, ready,
    List.length_map]

theorem finalPool_tasks :
    (finalPool permits tasks state schedule).jobs.map Job.task = tasks := by
  rw [finalPool_eq_takeAll, takeAll_tasks, tasks_ready]

@[simp] theorem finalPool_recorded :
    finalPool permits (tasks.map Suite.recordedTask) (state, []) schedule =
      (finalPool permits tasks state schedule).recorded
        (finalCalls permits tasks state schedule) := by
  rw [finalPool_eq_takeAll, ready_recorded, takeAll_recorded, List.length_map,
    ← finalPool_eq_takeAll]
  rfl

section Finished

variable {permits : Nat} (available : 0 < permits)
include available

theorem finalPool_finished :
    ∀ position, (finalPool permits tasks state schedule).FinishedAt position := by
  apply finishedAt_complete
  rwa [takeAll_permits]

theorem finalPool_results
    (argumentsOnly : ∀ task ∈ tasks, task.1.DependsOnArguments)
    (reference : σ) :
    (finalPool permits tasks state schedule).results =
      tasks.map fun task => (task.1.executeWith task.2 reference).1 := by
  have truthful : ∀ job ∈ (finalPool permits tasks state schedule).jobs,
      job.Truthful := by
    rw [finalPool_eq_takeAll]
    exact takeAll_induction _ (fun step => step.truthful)
      (truthful_ready permits tasks state) _
  have results := results_of_finished
    (finalPool_finished tasks state schedule available) truthful
  rw [finalPool_tasks] at results
  exact results argumentsOnly reference

/-- Every task is called once in a parallel run. -/
theorem finalCalls_perm :
    ((finalCalls permits tasks state schedule).map Invocation.call).Perm
      tasks := by
  have started := startedTasks_takeAll_perm (ready permits tasks state)
    (schedule ++ completion tasks.length)
  rw [startedTasks_ready, List.append_nil, ← finalPool_eq_takeAll,
    startedTasks_of_finished (finalPool_finished tasks state schedule available),
    finalPool_tasks] at started
  exact started

end Finished

end Pool

namespace Suite

/-- A journal of one genuine call for every instance, in any order, each with
the arguments of its instance. -/
structure CallsOnce (instances : List (Instance σ))
    (resolved : List Arguments) (journal : List (Invocation σ)) : Prop where
  aligned : resolved.length = instances.length
  calls : (journal.map Invocation.call).Perm (instances.zip resolved)
  genuine : ∀ invocation ∈ journal, invocation.Genuine

section

variable {suite : Suite σ} {globals : Arguments} {workers : Nat}

theorem runParallel_of_unresolved
    {error : BindingError}
    (unresolved : Resolution.resolveAll suite.instances globals = .error error)
    (schedule : List Turn) (clock : σ → Instant × σ) (state : σ) :
    suite.runParallel globals workers schedule clock state =
      (.error (.refused error), state) := by
  rw [runParallel, unresolved]

variable {resolved : List Arguments}
  (resolution : Resolution.resolveAll suite.instances globals = .ok resolved)
include resolution

theorem runParallel_of_lt
    (uncountable : Pool.permitLimit < workers)
    (schedule : List Turn) (clock : σ → Instant × σ) (state : σ) :
    suite.runParallel globals workers schedule clock state =
      (.error .crashed, (clock state).2) := by
  simp only [runParallel, resolution, Pool.create_of_lt uncountable]

theorem runParallel_of_le
    (countable : workers ≤ Pool.permitLimit)
    (schedule : List Turn) (clock : σ → Instant × σ) (state : σ) :
    suite.runParallel globals workers schedule clock state =
      let final := Pool.finalPool (max workers 1) (suite.instances.zip resolved)
        (clock state).2 schedule
      (.ok ⟨suite.name, entries suite.instances final.results, (clock state).1,
        (clock final.state).1⟩, (clock final.state).2) := by
  simp only [runParallel, resolution, Pool.create_of_le countable]
  rfl

/-- The recorded suite reports the same and keeps the calls beside the
state. -/
theorem runParallel_recorded
    (countable : workers ≤ Pool.permitLimit)
    (schedule : List Turn) (clock : σ → Instant × σ) (state : σ) :
    suite.recorded.runParallel globals workers schedule (besideJournal clock)
        (state, []) =
      let outcome := suite.runParallel globals workers schedule clock state
      (outcome.1, (outcome.2, Pool.finalCalls (max workers 1)
        (suite.instances.zip resolved) (clock state).2 schedule)) := by
  have recordedResolution :
      Resolution.resolveAll suite.recorded.instances globals = .ok resolved := by
    simpa using resolution
  rw [runParallel_of_le recordedResolution countable,
    runParallel_of_le resolution countable]
  simp [besideJournal]

end

/-- Whatever the number of workers and the schedule, a parallel run of a suite that a run
in order refuses is refused for the same reason, without a call.  Of a suite that a run in
order reports on, it calls every instance once and reports the same entries if the permits
can be counted, with no more checks running at any time than there are workers, or than
one without any.  If they cannot be counted it crashes, without a call. -/
theorem runParallel_agrees_with_run
    (suite : Suite σ)
    (argumentsOnly : ∀ bound ∈ suite.instances, bound.DependsOnArguments)
    (globals : Arguments) (workers : Nat) (schedule : List Turn)
    (clock : σ → Instant × σ) (state : σ) :
    let parallel := suite.runParallel globals workers schedule clock state
    let recorded := suite.recorded.runParallel globals workers schedule
      (besideJournal clock) (state, [])
    (∀ error final, suite.run globals clock state = (.error error, final) →
      parallel = (.error (.refused error), state) ∧
        recorded = (.error (.refused error), (state, []))) ∧
      ∀ report final, suite.run globals clock state = (.ok report, final) →
        (workers ≤ Pool.permitLimit →
          ∃ resolved pool own reached journal,
            Resolution.resolveAll suite.instances globals = .ok resolved ∧
              Pool.create workers (suite.instances.zip resolved) (clock state).2 =
                some pool ∧
              parallel = (.ok own, reached) ∧
              recorded = (.ok own, (reached, journal)) ∧
              CallsOnce suite.instances resolved journal ∧
              own.suiteName = report.suiteName ∧
              own.entries = report.entries ∧
              ∀ turns : List Turn, (pool.takeAll turns).runningCount ≤ max workers 1) ∧
          (Pool.permitLimit < workers →
            parallel = (.error .crashed, (clock state).2) ∧
              recorded = (.error .crashed, ((clock state).2, []))) := by
  intro parallel recorded
  constructor
  · intro error final outcome
    obtain ⟨unresolved, _⟩ := run_eq_error outcome
    have recordedUnresolved := unresolved
    rw [← resolveAll_recorded] at recordedUnresolved
    exact ⟨runParallel_of_unresolved unresolved schedule clock state,
      runParallel_of_unresolved recordedUnresolved schedule _ _⟩
  · intro report final outcome
    obtain ⟨resolved, resolution, rfl, rfl⟩ := run_eq_ok outcome
    refine ⟨?countable, ?uncountable⟩
    case countable =>
      intro countable
      let tasks := suite.instances.zip resolved
      have available : 0 < max workers 1 :=
        Nat.lt_of_lt_of_le Nat.zero_lt_one (Nat.le_max_right workers 1)
      have tasksDepend : ∀ task ∈ tasks, task.1.DependsOnArguments :=
        fun task member => argumentsOnly task.1 (List.of_mem_zip member).1
      have calledOnce : CallsOnce suite.instances resolved
          (Pool.finalCalls (max workers 1) tasks (clock state).2 schedule) :=
        { aligned := Resolution.resolveAll_length resolution
          calls := Pool.finalCalls_perm tasks (clock state).2 schedule available
          genuine := fun _ => Pool.genuine_of_mem_calledAll }
      have parallelRun := runParallel_of_le resolution countable schedule clock state
      have recordedRun := runParallel_recorded resolution countable schedule clock state
      rw [parallelRun] at recordedRun
      refine ⟨resolved, _, _, _, _, resolution, Pool.create_of_le countable, parallelRun,
        recordedRun, calledOnce, rfl, ?_, ?_⟩
      · apply congrArg (entries suite.instances)
        rw [Pool.finalPool_results tasks _ schedule available tasksDepend state,
          runInOrder_results_of_dependsOnArguments tasksDepend _ state]
      · apply Pool.runningCount_takeAll_le
        simp
    case uncountable =>
      intro uncountable
      have recordedResolution := resolveAll_recorded suite globals
      rw [resolution] at recordedResolution
      exact ⟨runParallel_of_lt resolution uncountable schedule clock state,
        runParallel_of_lt recordedResolution uncountable schedule _ _⟩

/-- A check without parameters that counts its calls in the state. -/
def countingInstance (name : String) (conclusion : Except Abort Outcome) :
    Instance Nat where
  metadata :=
    ({ moduleName := "checks"
       name := name
       displayName := none
       doc := ""
       moduleDoc := ""
       code := ""
       tags := []
       parameters := []
       kind := .function } : Declaration).metadata
  logic := fun _ count => (conclusion, count + 1)
  bindings := .empty

def countingSuite : Suite Nat where
  name := none
  instances :=
    [countingInstance "faulty" (.error (.panicked (some "division by zero"))),
      countingInstance "steady" (.ok (.verdict true))]

theorem countingSuite_dependsOnArguments :
    ∀ bound ∈ countingSuite.instances, bound.DependsOnArguments := by
  intro bound member
  rcases List.mem_cons.mp member with rfl | later
  · exact fun _ _ _ => rfl
  · rw [List.mem_singleton.mp later]
    exact fun _ _ _ => rfl

/-- Without workers, and with the second check before the first one, which
panics. -/
theorem runParallel_countingSuite :
    (∀ bound ∈ countingSuite.instances, bound.DependsOnArguments) ∧
      ∃ parallel reached,
        countingSuite.runParallel .empty 0 [.grant 1, .grant 0, .start 1]
            (fun count => (⟨0, 0, 0⟩, count)) 0 =
          (.ok parallel, reached) ∧
          parallel.entries.map (fun entry => entry.result.passed) =
            [false, true] := by
  obtain ⟨_, succeeds⟩ := runParallel_agrees_with_run countingSuite
    countingSuite_dependsOnArguments .empty 0
    [.grant 1, .grant 0, .start 1] (fun count => (⟨0, 0, 0⟩, count)) 0
  obtain ⟨agrees, _⟩ := succeeds _ _ rfl
  obtain ⟨_, _, parallel, reached, _, _, _, outcome, _, _, _, sameEntries, _⟩ :=
    agrees (Nat.zero_le _)
  refine ⟨countingSuite_dependsOnArguments, parallel, reached, outcome, ?_⟩
  rw [sameEntries]
  rfl

/-- With one worker more than permits can be counted, the suite that a run in order reports
on is not run. -/
theorem runParallel_crashes_countingSuite :
    let clock : Nat → Instant × Nat := fun count => (⟨0, 0, 0⟩, count)
    (∀ bound ∈ countingSuite.instances, bound.DependsOnArguments) ∧
      (∃ report final, countingSuite.run .empty clock 0 = (.ok report, final) ∧
          report.entries.map (fun entry => entry.result.passed) = [false, true]) ∧
      ∀ schedule, countingSuite.runParallel .empty (Pool.permitLimit + 1) schedule clock 0 =
        (.error .crashed, 0) := by
  intro clock
  refine ⟨countingSuite_dependsOnArguments, ⟨_, _, rfl, rfl⟩, ?_⟩
  intro schedule
  exact runParallel_of_lt rfl (Nat.lt_succ_self _) schedule clock 0

end Suite

end Assay
