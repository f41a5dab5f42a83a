import Assay.Suite

/-!
# Parallel runs

A pool runs jobs with a limited number of permits.  A job waits, is admitted
when a permit is free, starts, and finishes, which gives the permit back.  The
order of these turns is up to a schedule; a turn that is not possible when its
time comes changes nothing.  Whatever the schedule leaves undone is done at its
end, so every job is run.  The results are listed in the order of the jobs, not
in the order in which they finish.  Permits are counted in a machine word that
has other uses as well, so a pool for too many workers is not made at all.
-/

namespace Assay

/-- How far a job is. -/
inductive Phase where
  | waiting
  | admitted
  /-- The logic has been called and this is what it will answer. -/
  | running (result : CheckResult)
  | finished (result : CheckResult)

structure Job (σ : Type) where
  bound : Instance σ
  arguments : Arguments
  phase : Phase

namespace Job

variable {σ : Type}

def isRunning (job : Job σ) : Bool :=
  match job.phase with
  | .running _ => true
  | _ => false

/-- Whether a job holds a permit. -/
def holdsPermit (job : Job σ) : Bool :=
  match job.phase with
  | .admitted => true
  | .running _ => true
  | _ => false

def result? (job : Job σ) : Option CheckResult :=
  match job.phase with
  | .finished result => some result
  | _ => none

end Job

/-- One step of one job, told by its position. -/
inductive Turn where
  | grant (position : Nat)
  | start (position : Nat)
  | finish (position : Nat)
deriving DecidableEq

structure Pool (σ : Type) where
  permits : Nat
  jobs : List (Job σ)
  state : σ

namespace Pool

variable {σ : Type}

/-- The most permits that can be counted, in a word of 64 bits of which three are not for
counting. -/
def permitLimit : Nat := (UInt64.size - 1) / 8

/-- A pool before its first turn. -/
def ready (permits : Nat) (tasks : List (Instance σ × Arguments)) (state : σ) : Pool σ where
  permits := permits
  jobs := tasks.map fun (bound, arguments) => ⟨bound, arguments, .waiting⟩
  state := state

/-- The pool for some workers, if that many permits can be counted.  There is always a
permit. -/
def create (workers : Nat) (tasks : List (Instance σ × Arguments)) (state : σ) :
    Option (Pool σ) :=
  if max workers 1 ≤ permitLimit then some (ready (max workers 1) tasks state) else none

def permitsTaken (pool : Pool σ) : Nat := pool.jobs.countP Job.holdsPermit

def runningCount (pool : Pool σ) : Nat := pool.jobs.countP Job.isRunning

def setPhase (pool : Pool σ) (position : Nat) (job : Job σ) (phase : Phase) : Pool σ :=
  { pool with jobs := pool.jobs.set position { job with phase := phase } }

def grantJob (pool : Pool σ) (position : Nat) (job : Job σ) : Pool σ :=
  match job.phase with
  | .waiting =>
      if pool.permitsTaken < pool.permits then pool.setPhase position job .admitted else pool
  | _ => pool

def startJob (pool : Pool σ) (position : Nat) (job : Job σ) : Pool σ :=
  match job.phase with
  | .admitted =>
      let (result, state) := job.bound.executeWith job.arguments pool.state
      { pool.setPhase position job (.running result) with state := state }
  | _ => pool

def finishJob (pool : Pool σ) (position : Nat) (job : Job σ) : Pool σ :=
  match job.phase with
  | .running result => pool.setPhase position job (.finished result)
  | _ => pool

def take (pool : Pool σ) (turn : Turn) : Pool σ :=
  match turn with
  | .grant position =>
      match pool.jobs[position]? with
      | some job => pool.grantJob position job
      | none => pool
  | .start position =>
      match pool.jobs[position]? with
      | some job => pool.startJob position job
      | none => pool
  | .finish position =>
      match pool.jobs[position]? with
      | some job => pool.finishJob position job
      | none => pool

def takeAll (pool : Pool σ) (turns : List Turn) : Pool σ := turns.foldl take pool

/-- The turns that complete any pool: jobs with a permit finish, then the others
are run one by one. -/
def completion (jobCount : Nat) : List Turn :=
  (List.range jobCount).flatMap (fun position => [.start position, .finish position])
    ++ (List.range jobCount).flatMap
      (fun position => [.grant position, .start position, .finish position])

def complete (pool : Pool σ) : Pool σ := pool.takeAll (completion pool.jobs.length)

def results (pool : Pool σ) : List CheckResult := pool.jobs.filterMap Job.result?

end Pool

/-- How a parallel run can end without a report. -/
inductive RunFailure where
  | refused (error : BindingError)
  /-- There is no pool for that many workers. -/
  | crashed

namespace Suite

variable {σ : Type}

/-- Run a suite with a pool of workers and a schedule. -/
def runParallel (suite : Suite σ) (globals : Arguments) (workers : Nat) (schedule : List Turn)
    (clock : σ → Instant × σ) (state : σ) : Except RunFailure Report × σ :=
  match Resolution.resolveAll suite.instances globals with
  | .error error => (.error (.refused error), state)
  | .ok resolved =>
      let (startedAt, state) := clock state
      match Pool.create workers (suite.instances.zip resolved) state with
      | none => (.error .crashed, state)
      | some pool =>
          let pool := (pool.takeAll schedule).complete
          let (finishedAt, state) := clock pool.state
          (.ok ⟨suite.name, entries suite.instances pool.results, startedAt, finishedAt⟩, state)

end Suite

end Assay
