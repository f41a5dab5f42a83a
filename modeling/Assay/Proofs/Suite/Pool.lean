import Assay.Proofs.Suite.Invocation
import Assay.Suite.Parallel

/-!
# Turns of a pool

Every turn is either possible, and then it brings one job one phase further, or
refused, and then it changes nothing.  All facts about pools are read off this
case distinction: a turn never takes a permit that is not there, it never
changes the task of a job, and it calls the logic of a job when it starts it.
-/

namespace Assay

variable {σ : Type}

namespace Job

def task (job : Job σ) : Instance σ × Arguments := (job.bound, job.arguments)

/-- The task of a job whose logic has been called. -/
def startedTask? (job : Job σ) : Option (Instance σ × Arguments) :=
  match job.phase with
  | .running _ | .finished _ => some job.task
  | _ => none

/-- What a job says to have been answered is an answer of its task. -/
def Truthful (job : Job σ) : Prop :=
  match job.phase with
  | .running result | .finished result =>
      ∃ state, result = (job.bound.executeWith job.arguments state).1
  | _ => True

/-- The call that starts a job, if the job can be started. -/
def called (job : Job σ) (state : σ) : List (Invocation σ) :=
  match job.phase with
  | .admitted => [.of job.bound job.arguments state]
  | _ => []

end Job

namespace Pool

/-- The turns that are not refused. -/
def Possible (pool : Pool σ) : Turn → Prop
  | .grant position =>
      ∃ job, pool.jobs[position]? = some job ∧ job.phase = .waiting ∧
        pool.permitsTaken < pool.permits
  | .start position =>
      ∃ job, pool.jobs[position]? = some job ∧ job.phase = .admitted
  | .finish position =>
      ∃ job result, pool.jobs[position]? = some job ∧
        job.phase = .running result

/-- What a turn does, and the calls that it makes. -/
inductive Step (pool : Pool σ) : Turn → List (Invocation σ) → Pool σ → Prop where
  | refused {turn : Turn} :
      ¬pool.Possible turn →
      Step pool turn [] pool
  | grant {position : Nat} {job : Job σ} :
      pool.jobs[position]? = some job →
      job.phase = .waiting →
      pool.permitsTaken < pool.permits →
      Step pool (.grant position) [] (pool.setPhase position job .admitted)
  | start {position : Nat} {job : Job σ} :
      pool.jobs[position]? = some job →
      job.phase = .admitted →
      Step pool (.start position)
        [.of job.bound job.arguments pool.state]
        { pool.setPhase position job
            (.running (job.bound.executeWith job.arguments pool.state).1) with
          state := (job.bound.executeWith job.arguments pool.state).2 }
  | finish {position : Nat} {job : Job σ} {result : CheckResult} :
      pool.jobs[position]? = some job →
      job.phase = .running result →
      Step pool (.finish position) []
        (pool.setPhase position job (.finished result))

/-- The calls that a turn makes. -/
def called (pool : Pool σ) : Turn → List (Invocation σ)
  | .start position =>
      match pool.jobs[position]? with
      | some job => job.called pool.state
      | none => []
  | _ => []

theorem step_take (pool : Pool σ) (turn : Turn) :
    pool.Step turn (pool.called turn) (pool.take turn) := by
  cases turn with
  | grant position =>
      cases found : pool.jobs[position]? with
      | none =>
          simp only [called, take, found]
          exact .refused (by simp [Possible, found])
      | some job =>
          obtain ⟨bound, arguments, phase⟩ := job
          simp only [called, take, found, grantJob]
          cases phase with
          | waiting =>
              by_cases free : pool.permitsTaken < pool.permits
              · simp only [free, if_true]
                exact .grant found rfl free
              · simp only [free, if_false]
                exact .refused (by simp [Possible, free])
          | admitted => exact .refused (by simp [Possible, found])
          | running result => exact .refused (by simp [Possible, found])
          | finished result => exact .refused (by simp [Possible, found])
  | start position =>
      cases found : pool.jobs[position]? with
      | none =>
          simp only [called, take, found]
          exact .refused (by simp [Possible, found])
      | some job =>
          obtain ⟨bound, arguments, phase⟩ := job
          simp only [called, take, found, startJob, Job.called]
          cases phase with
          | admitted => exact .start found rfl
          | waiting => exact .refused (by simp [Possible, found])
          | running result => exact .refused (by simp [Possible, found])
          | finished result => exact .refused (by simp [Possible, found])
  | finish position =>
      cases found : pool.jobs[position]? with
      | none =>
          simp only [called, take, found]
          exact .refused (by simp [Possible, found])
      | some job =>
          obtain ⟨bound, arguments, phase⟩ := job
          simp only [called, take, found, finishJob]
          cases phase with
          | running result => exact .finish found rfl
          | waiting => exact .refused (by simp [Possible, found])
          | admitted => exact .refused (by simp [Possible, found])
          | finished result => exact .refused (by simp [Possible, found])

/-- What every turn preserves holds after any turns. -/
theorem takeAll_induction
    (property : Pool σ → Prop)
    (preserved : ∀ {pool turn calls next}, Step pool turn calls next →
      property pool → property next)
    {pool : Pool σ} (holds : property pool) (turns : List Turn) :
    property (pool.takeAll turns) := by
  induction turns generalizing pool with
  | nil => exact holds
  | cons turn rest induction =>
      exact induction (preserved (pool.step_take turn) holds)

section Bounds

variable {pool next : Pool σ} {turn : Turn} {calls : List (Invocation σ)}

theorem Step.permits_eq (step : Step pool turn calls next) :
    next.permits = pool.permits := by
  cases step with
  | refused => rfl
  | grant => rfl
  | start => rfl
  | finish => rfl

theorem takeAll_permits (pool : Pool σ) (turns : List Turn) :
    (pool.takeAll turns).permits = pool.permits :=
  takeAll_induction _ (fun step same => step.permits_eq.trans same) rfl turns

private theorem countP_set_add
    {α : Type} (counted : α → Bool) {items : List α} {position : Nat}
    {old : α} (found : items[position]? = some old) (new : α) :
    (items.set position new).countP counted + (counted old).toNat =
      items.countP counted + (counted new).toNat := by
  induction items generalizing position with
  | nil => simp at found
  | cons item rest induction =>
      cases position with
      | zero =>
          obtain rfl : item = old := by simpa using found
          simp only [List.set_cons_zero, List.countP_cons]
          cases counted item <;> cases counted new <;> simp
      | succ position =>
          have ofRest : (rest.set position new).countP counted
              + (counted old).toNat =
              rest.countP counted + (counted new).toNat :=
            induction (by simpa using found)
          simp only [List.set_cons_succ, List.countP_cons]
          omega

theorem permitsTaken_setPhase
    {position : Nat} {job : Job σ} (found : pool.jobs[position]? = some job)
    (phase : Phase) :
    (pool.setPhase position job phase).permitsTaken + job.holdsPermit.toNat =
      pool.permitsTaken
        + ({ job with phase := phase } : Job σ).holdsPermit.toNat :=
  countP_set_add Job.holdsPermit found _

/-- A turn that takes a permit takes one that is there. -/
theorem Step.permitsTaken_le
    (step : Step pool turn calls next)
    (enough : pool.permitsTaken ≤ pool.permits) :
    next.permitsTaken ≤ next.permits := by
  rw [step.permits_eq]
  cases step with
  | refused => exact enough
  | grant found waiting free =>
      have counted := permitsTaken_setPhase found .admitted
      simp only [Job.holdsPermit, waiting, Bool.toNat_false, Bool.toNat_true]
        at counted
      omega
  | @start position job found admitted =>
      have counted := permitsTaken_setPhase found
        (.running (job.bound.executeWith job.arguments pool.state).1)
      simp only [Job.holdsPermit, admitted, Bool.toNat_true] at counted
      change (pool.setPhase position job _).permitsTaken ≤ _
      omega
  | @finish position job result found running =>
      have counted := permitsTaken_setPhase found (.finished result)
      simp only [Job.holdsPermit, running, Bool.toNat_false, Bool.toNat_true]
        at counted
      omega

end Bounds

theorem runningCount_le_permitsTaken (pool : Pool σ) :
    pool.runningCount ≤ pool.permitsTaken := by
  apply List.countP_mono_left
  intro job _ running
  unfold Job.isRunning at running
  unfold Job.holdsPermit
  split at running <;> simp_all

/-- Whatever the turns, no more jobs run than there are permits. -/
theorem runningCount_takeAll_le
    {pool : Pool σ} (enough : pool.permitsTaken ≤ pool.permits)
    (turns : List Turn) :
    (pool.takeAll turns).runningCount ≤ pool.permits := by
  calc (pool.takeAll turns).runningCount
      ≤ (pool.takeAll turns).permitsTaken := runningCount_le_permitsTaken _
    _ ≤ (pool.takeAll turns).permits :=
        takeAll_induction _ (fun step => step.permitsTaken_le) enough turns
    _ = pool.permits := takeAll_permits pool turns

section Tasks

variable {pool next : Pool σ} {turn : Turn} {calls : List (Invocation σ)}

/-- A new phase changes only what depends on the phase. -/
private theorem map_setPhase
    {α : Type} (view : Job σ → α) {position : Nat} {job : Job σ}
    (found : pool.jobs[position]? = some job) {phase : Phase}
    (same : view { job with phase := phase } = view job) :
    (pool.setPhase position job phase).jobs.map view = pool.jobs.map view := by
  obtain ⟨inside, rfl⟩ := List.getElem?_eq_some_iff.mp found
  have inMap : position < (pool.jobs.map view).length := by simpa using inside
  calc (pool.setPhase position _ phase).jobs.map view
      = (pool.jobs.map view).set position (view pool.jobs[position]) := by
        rw [setPhase, List.map_set, same]
    _ = (pool.jobs.map view).set position (pool.jobs.map view)[position] := by
        rw [List.getElem_map]
    _ = pool.jobs.map view := List.set_getElem_self inMap

theorem Step.tasks_eq (step : Step pool turn calls next) :
    next.jobs.map Job.task = pool.jobs.map Job.task := by
  cases step with
  | refused => rfl
  | grant found => exact map_setPhase Job.task found rfl
  | start found => exact map_setPhase Job.task found rfl
  | finish found => exact map_setPhase Job.task found rfl

/-- The tasks whose logic has been called. -/
def startedTasks (pool : Pool σ) : List (Instance σ × Arguments) :=
  pool.jobs.filterMap Job.startedTask?

private theorem filterMap_set_perm
    {α β : Type} {view : α → Option β} {items : List α} {position : Nat}
    {old new : α} {shown : β} (found : items[position]? = some old)
    (hidden : view old = none) (visible : view new = some shown) :
    (shown :: items.filterMap view).Perm
      ((items.set position new).filterMap view) := by
  induction items generalizing position with
  | nil => simp at found
  | cons item rest induction =>
      cases position with
      | zero =>
          obtain rfl : item = old := by simpa using found
          simp [hidden, visible]
      | succ position =>
          have ofRest : (shown :: rest.filterMap view).Perm
              ((rest.set position new).filterMap view) :=
            induction (by simpa using found)
          simp only [List.set_cons_succ, List.filterMap_cons]
          cases view item with
          | none => exact ofRest
          | some first => exact (List.Perm.swap _ _ _).trans (ofRest.cons first)

private theorem startedTasks_setPhase
    {position : Nat} {job : Job σ} (found : pool.jobs[position]? = some job)
    {phase : Phase}
    (same : ({ job with phase := phase } : Job σ).startedTask? =
      job.startedTask?) :
    (pool.setPhase position job phase).startedTasks = pool.startedTasks := by
  have mapped := congrArg (List.filterMap id)
    (map_setPhase Job.startedTask? found same)
  rwa [List.filterMap_map, List.filterMap_map] at mapped

/-- A turn that starts a job calls its task, and no other turn calls any. -/
theorem Step.startedTasks_perm (step : Step pool turn calls next) :
    (calls.map Invocation.call ++ pool.startedTasks).Perm
      next.startedTasks := by
  cases step with
  | refused => exact .refl _
  | grant found waiting free =>
      rw [startedTasks_setPhase found (by simp [Job.startedTask?, waiting])]
      exact .refl _
  | start found admitted =>
      exact filterMap_set_perm found (by simp [Job.startedTask?, admitted]) rfl
  | finish found running =>
      rw [startedTasks_setPhase found
        (by simp [Job.startedTask?, Job.task, running])]
      exact .refl _

theorem Step.genuine (step : Step pool turn calls next) :
    ∀ invocation ∈ calls, invocation.Genuine := by
  intro invocation member
  cases step with
  | refused => cases member
  | grant => cases member
  | start =>
      rw [List.mem_singleton.mp member]
      rfl
  | finish => cases member

theorem Step.truthful
    (step : Step pool turn calls next)
    (truthful : ∀ job ∈ pool.jobs, job.Truthful) :
    ∀ job ∈ next.jobs, job.Truthful := by
  intro job member
  cases step with
  | refused => exact truthful job member
  | grant found waiting free =>
      rcases List.mem_or_eq_of_mem_set member with old | rfl
      · exact truthful job old
      · trivial
  | start found admitted =>
      rcases List.mem_or_eq_of_mem_set member with old | rfl
      · exact truthful job old
      · exact ⟨_, rfl⟩
  | finish found running =>
      rcases List.mem_or_eq_of_mem_set member with old | rfl
      · exact truthful job old
      · have answered := truthful _ (List.mem_of_getElem? found)
        simpa only [Job.Truthful, running] using answered

end Tasks

theorem takeAll_tasks (pool : Pool σ) (turns : List Turn) :
    (pool.takeAll turns).jobs.map Job.task = pool.jobs.map Job.task :=
  takeAll_induction _ (fun step same => step.tasks_eq.trans same) rfl turns

/-- The calls that turns make, in the order of the turns. -/
def calledAll : Pool σ → List Turn → List (Invocation σ)
  | _, [] => []
  | pool, turn :: rest => pool.called turn ++ (pool.take turn).calledAll rest

theorem genuine_of_mem_calledAll
    {pool : Pool σ} {turns : List Turn} {invocation : Invocation σ}
    (member : invocation ∈ pool.calledAll turns) :
    invocation.Genuine := by
  induction turns generalizing pool with
  | nil => cases member
  | cons turn rest induction =>
      rcases List.mem_append.mp member with now | later
      · exact (pool.step_take turn).genuine invocation now
      · exact induction later

/-- No call is made twice: together with the jobs that were started before, the
calls are those of the jobs that are started after. -/
theorem startedTasks_takeAll_perm (pool : Pool σ) (turns : List Turn) :
    ((pool.calledAll turns).map Invocation.call ++ pool.startedTasks).Perm
      (pool.takeAll turns).startedTasks := by
  induction turns generalizing pool with
  | nil => exact .refl _
  | cons turn rest induction =>
      have now := (pool.step_take turn).startedTasks_perm
      have later := induction (pool.take turn)
      -- The calls of this turn belong to the pool that the rest starts from.
      rw [calledAll, List.map_append, List.append_assoc]
      exact (List.perm_append_comm_assoc _ _ _).trans
        ((now.append_left _).trans later)

end Pool

end Assay
