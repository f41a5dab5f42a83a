import Assay.Proofs.Suite.Pool

/-!
# Journals of pools

A pool of recorded instances takes the same turns as the pool of the instances
themselves, and its journal grows by the calls of each turn.
-/

namespace Assay

variable {σ : Type}

namespace Pool

/-- The same job, for an instance with a journal. -/
def recordedJob (job : Job σ) : Job (σ × List (Invocation σ)) where
  bound := job.bound.recorded
  arguments := job.arguments
  phase := job.phase

/-- The pool with a journal of the calls made so far. -/
def recorded (pool : Pool σ) (journal : List (Invocation σ)) :
    Pool (σ × List (Invocation σ)) where
  permits := pool.permits
  jobs := pool.jobs.map recordedJob
  state := (pool.state, journal)

@[simp] theorem state_recorded (pool : Pool σ) (journal : List (Invocation σ)) :
    (pool.recorded journal).state = (pool.state, journal) := rfl

@[simp] theorem permitsTaken_recorded (pool : Pool σ) (journal : List (Invocation σ)) :
    (pool.recorded journal).permitsTaken = pool.permitsTaken :=
  List.countP_map

theorem setPhase_recorded
    (pool : Pool σ) (journal : List (Invocation σ)) (position : Nat)
    (job : Job σ) (phase : Phase) :
    (pool.recorded journal).setPhase position (recordedJob job) phase =
      (pool.setPhase position job phase).recorded journal := by
  simp only [recorded, setPhase, List.map_set]
  rfl

theorem grantJob_recorded
    (pool : Pool σ) (journal : List (Invocation σ)) (position : Nat)
    (job : Job σ) :
    (pool.recorded journal).grantJob position (recordedJob job) =
      (pool.grantJob position job).recorded journal := by
  have admission := setPhase_recorded pool journal position job .admitted
  obtain ⟨bound, arguments, phase⟩ := job
  cases phase with
  | waiting =>
      simp only [grantJob, recordedJob, permitsTaken_recorded] at admission ⊢
      rw [admission]
      exact (apply_ite (fun granted : Pool σ => granted.recorded journal)
        (pool.permitsTaken < pool.permits) _ _).symm
  | admitted => rfl
  | running result => rfl
  | finished result => rfl

theorem startJob_recorded
    (pool : Pool σ) (journal : List (Invocation σ)) (position : Nat)
    (job : Job σ) :
    (pool.recorded journal).startJob position (recordedJob job) =
      (pool.startJob position job).recorded
        (journal ++ job.called pool.state) := by
  obtain ⟨bound, arguments, phase⟩ := job
  cases phase with
  | admitted =>
      simp only [startJob, setPhase, recorded, recordedJob, List.map_set]
      rfl
  | waiting => exact congrArg pool.recorded (List.append_nil journal).symm
  | running result => exact congrArg pool.recorded (List.append_nil journal).symm
  | finished result =>
      exact congrArg pool.recorded (List.append_nil journal).symm

theorem finishJob_recorded
    (pool : Pool σ) (journal : List (Invocation σ)) (position : Nat)
    (job : Job σ) :
    (pool.recorded journal).finishJob position (recordedJob job) =
      (pool.finishJob position job).recorded journal := by
  obtain ⟨bound, arguments, phase⟩ := job
  cases phase with
  | running result => exact setPhase_recorded pool journal position _ _
  | waiting => rfl
  | admitted => rfl
  | finished result => rfl

@[simp] theorem take_recorded
    (pool : Pool σ) (journal : List (Invocation σ)) (turn : Turn) :
    (pool.recorded journal).take turn =
      (pool.take turn).recorded (journal ++ pool.called turn) := by
  have listed (position : Nat) : (pool.recorded journal).jobs[position]? =
      pool.jobs[position]?.map recordedJob := List.getElem?_map
  cases turn with
  | grant position =>
      simp only [take, called, listed, List.append_nil]
      cases pool.jobs[position]? with
      | none => rfl
      | some job => exact grantJob_recorded pool journal position job
  | start position =>
      simp only [take, called, listed]
      cases pool.jobs[position]? with
      | none => simp only [Option.map_none, List.append_nil]
      | some job => exact startJob_recorded pool journal position job
  | finish position =>
      simp only [take, called, listed, List.append_nil]
      cases pool.jobs[position]? with
      | none => rfl
      | some job => exact finishJob_recorded pool journal position job

@[simp] theorem takeAll_recorded
    (pool : Pool σ) (journal : List (Invocation σ)) (turns : List Turn) :
    (pool.recorded journal).takeAll turns =
      (pool.takeAll turns).recorded (journal ++ pool.calledAll turns) := by
  induction turns generalizing pool journal with
  | nil => simp [calledAll, takeAll]
  | cons turn rest induction =>
      calc (pool.recorded journal).takeAll (turn :: rest)
          = ((pool.recorded journal).take turn).takeAll rest := rfl
        _ = ((pool.take turn).recorded (journal ++ pool.called turn)).takeAll
              rest := by
            rw [take_recorded]
        _ = (pool.takeAll (turn :: rest)).recorded
              (journal ++ pool.calledAll (turn :: rest)) := by
            rw [induction, List.append_assoc]
            rfl

@[simp] theorem results_recorded (pool : Pool σ) (journal : List (Invocation σ)) :
    (pool.recorded journal).results = pool.results :=
  List.filterMap_map

@[simp] theorem ready_recorded
    (permits : Nat) (tasks : List (Instance σ × Arguments)) (state : σ) :
    ready permits (tasks.map Suite.recordedTask) (state, []) =
      (ready permits tasks state).recorded [] := by
  simp only [ready, recorded, List.map_map]
  rfl

end Pool

end Assay
