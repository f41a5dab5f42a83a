import Assay.Proofs.Suite.Pool

/-!
# Completion of pools

A job has had at most three turns, and a turn is possible exactly when the job
at its position has had the turns before it.  Counting turns is therefore
enough to see that the completion of a pool, whatever its jobs did before,
finishes all of them.
-/

namespace Assay

variable {σ : Type}

/-- The number of turns that a job has had. -/
def Phase.rank : Phase → Nat
  | .waiting => 0
  | .admitted => 1
  | .running _ => 2
  | .finished _ => 3

theorem Phase.rank_eq_zero {phase : Phase} :
    phase.rank = 0 ↔ phase = .waiting := by
  cases phase <;> simp [rank]

theorem Phase.rank_eq_one {phase : Phase} :
    phase.rank = 1 ↔ phase = .admitted := by
  cases phase <;> simp [rank]

theorem Phase.rank_eq_two {phase : Phase} :
    phase.rank = 2 ↔ ∃ result, phase = .running result := by
  cases phase <;> simp [rank]

theorem Phase.rank_eq_three {phase : Phase} :
    phase.rank = 3 ↔ ∃ result, phase = .finished result := by
  cases phase <;> simp [rank]

/-- The number of turns that a job must have had for a turn. -/
def Turn.rank : Turn → Nat
  | .grant _ => 0
  | .start _ => 1
  | .finish _ => 2

def Turn.position : Turn → Nat
  | .grant position | .start position | .finish position => position

namespace Pool

/-- The number of turns that the job at a position has had.  Where there is no
job, nothing is left to be done. -/
def rankAt (pool : Pool σ) (position : Nat) : Nat :=
  match pool.jobs[position]? with
  | some job => job.phase.rank
  | none => 3

def RestsAt (pool : Pool σ) (position : Nat) : Prop :=
  pool.rankAt position = 0 ∨ pool.rankAt position = 3

def FinishedAt (pool : Pool σ) (position : Nat) : Prop :=
  pool.rankAt position = 3

variable {pool : Pool σ}

theorem rankAt_of_found
    {position : Nat} {job : Job σ} (found : pool.jobs[position]? = some job) :
    pool.rankAt position = job.phase.rank := by
  rw [rankAt, found]

theorem found_of_rankAt_lt
    {position : Nat} (unfinished : pool.rankAt position < 3) :
    ∃ job, pool.jobs[position]? = some job ∧
      job.phase.rank = pool.rankAt position := by
  cases found : pool.jobs[position]? with
  | none => simp [rankAt, found] at unfinished
  | some job => exact ⟨job, rfl, (rankAt_of_found found).symm⟩

theorem rankAt_setPhase
    {position : Nat} {job : Job σ} (found : pool.jobs[position]? = some job)
    (phase : Phase) (other : Nat) :
    (pool.setPhase position job phase).rankAt other =
      if position = other then phase.rank else pool.rankAt other := by
  obtain ⟨inside, _⟩ := List.getElem?_eq_some_iff.mp found
  by_cases same : position = other
  · subst same
    simp [rankAt, setPhase, inside]
  · simp [rankAt, setPhase, same]

/-- With a permit free, a turn is possible when the job at its position has
come as far as the turn requires. -/
theorem possible_of_rankAt
    {turn : Turn} (free : turn.rank = 0 → pool.permitsTaken < pool.permits)
    (reached : pool.rankAt turn.position = turn.rank) :
    pool.Possible turn := by
  have unfinished : pool.rankAt turn.position < 3 := by
    rw [reached]
    cases turn <;> simp [Turn.rank]
  obtain ⟨job, found, sameRank⟩ := found_of_rankAt_lt unfinished
  rw [reached] at sameRank
  cases turn with
  | grant position =>
      exact ⟨job, found, Phase.rank_eq_zero.mp sameRank, free rfl⟩
  | start position => exact ⟨job, found, Phase.rank_eq_one.mp sameRank⟩
  | finish position =>
      obtain ⟨result, running⟩ := Phase.rank_eq_two.mp sameRank
      exact ⟨job, result, found, running⟩

private theorem rankAt_advance
    {position : Nat} {job : Job σ} (found : pool.jobs[position]? = some job)
    (phase : Phase) (further : phase.rank = job.phase.rank + 1) (other : Nat) :
    (pool.setPhase position job phase).rankAt other =
      if position = other ∧ pool.rankAt other = job.phase.rank
        then job.phase.rank + 1 else pool.rankAt other := by
  rw [rankAt_setPhase found, further]
  by_cases same : position = other
  · subst same
    simp [rankAt_of_found found]
  · simp [same]

/-- A turn takes the job at its position one phase further, if it is the turn
of that job, and leaves all other jobs alone. -/
theorem Step.rankAt_eq
    {turn : Turn} {calls : List (Invocation σ)} {next : Pool σ}
    (step : Step pool turn calls next)
    (free : turn.rank = 0 → pool.permitsTaken < pool.permits) (other : Nat) :
    next.rankAt other =
      if turn.position = other ∧ pool.rankAt other = turn.rank
        then turn.rank + 1 else pool.rankAt other := by
  cases step with
  | refused barred =>
      rw [if_neg]
      rintro ⟨rfl, reached⟩
      exact barred (possible_of_rankAt free reached)
  | grant found waiting =>
      have advanced := rankAt_advance found .admitted
        (by rw [waiting]; rfl) other
      rwa [waiting] at advanced
  | @start position job found admitted =>
      have advanced := rankAt_advance found
        (.running (job.bound.executeWith job.arguments pool.state).1)
        (by rw [admitted]; rfl) other
      rwa [admitted] at advanced
  | @finish position job result found running =>
      have advanced := rankAt_advance found (.finished result)
        (by rw [running]; rfl) other
      rwa [running] at advanced

theorem rankAt_start (position other : Nat) :
    (pool.take (.start position)).rankAt other =
      if position = other ∧ pool.rankAt other = 1
        then 2 else pool.rankAt other :=
  (pool.step_take (.start position)).rankAt_eq (fun grant => by cases grant)
    other

theorem rankAt_finish (position other : Nat) :
    (pool.take (.finish position)).rankAt other =
      if position = other ∧ pool.rankAt other = 2
        then 3 else pool.rankAt other :=
  (pool.step_take (.finish position)).rankAt_eq (fun grant => by cases grant)
    other

theorem rankAt_grant
    (free : pool.permitsTaken < pool.permits) (position other : Nat) :
    (pool.take (.grant position)).rankAt other =
      if position = other ∧ pool.rankAt other = 0
        then 1 else pool.rankAt other :=
  (pool.step_take (.grant position)).rankAt_eq (fun _ => free) other

theorem rankAt_le (pool : Pool σ) (position : Nat) :
    pool.rankAt position ≤ 3 := by
  unfold rankAt
  split
  · rename_i job _
    cases job.phase <;> simp [Phase.rank]
  · exact Nat.le_refl 3

theorem permitsTaken_of_rests (rests : ∀ position, pool.RestsAt position) :
    pool.permitsTaken = 0 := by
  apply List.countP_eq_zero.mpr
  intro job member
  obtain ⟨position, found⟩ := List.getElem?_of_mem member
  have rest := rests position
  rw [RestsAt, rankAt_of_found found, Phase.rank_eq_zero, Phase.rank_eq_three]
    at rest
  rcases rest with waiting | ⟨result, finished⟩
  · simp [Job.holdsPermit, waiting]
  · simp [Job.holdsPermit, finished]

/-- A job that is started and finished, as far as it can be, rests, and so do
the jobs that rested before. -/
theorem restsAt_close
    {first position : Nat}
    (rests : pool.RestsAt position ∨ position = first) :
    ((pool.take (.start first)).take (.finish first)).RestsAt position := by
  have bounded := rankAt_le pool position
  simp only [RestsAt, rankAt_start, rankAt_finish] at rests ⊢
  split_ifs <;> omega

/-- With a permit free, a job that rests is run to its end, and the others are
left alone. -/
theorem rankAt_runThrough
    (free : pool.permitsTaken < pool.permits) {first : Nat}
    (rests : pool.RestsAt first) (position : Nat) :
    (((pool.take (.grant first)).take (.start first)).take
        (.finish first)).rankAt position =
      if position = first then 3 else pool.rankAt position := by
  simp only [RestsAt, rankAt_grant free, rankAt_start, rankAt_finish]
    at rests ⊢
  by_cases same : position = first
  · subst same
    split_ifs <;> omega
  · simp [same, Ne.symm same]

theorem restsAt_after_closing
    {positions : List Nat} {pool : Pool σ} {position : Nat}
    (rests : pool.RestsAt position ∨ position ∈ positions) :
    (pool.takeAll (positions.flatMap fun position =>
      [.start position, .finish position])).RestsAt position := by
  induction positions generalizing pool with
  | nil => exact rests.resolve_right List.not_mem_nil
  | cons first rest induction =>
      -- The induction is over all pools, so a job that rests once is carried
      -- along as one that rested before the remaining turns.
      apply @induction ((pool.take (.start first)).take (.finish first))
      rcases rests with rested | member
      · exact .inl (restsAt_close (.inl rested))
      · rcases List.mem_cons.mp member with same | later
        · exact .inl (restsAt_close (.inr same))
        · exact .inr later

/-- When all jobs rest, a single permit is enough to run them one by one. -/
theorem finishedAt_after_running
    {positions : List Nat} {pool : Pool σ} (available : 0 < pool.permits)
    (rests : ∀ position, pool.RestsAt position) {position : Nat}
    (done : pool.FinishedAt position ∨ position ∈ positions) :
    (pool.takeAll (positions.flatMap fun position =>
      [.grant position, .start position, .finish position])).FinishedAt
        position := by
  induction positions generalizing pool with
  | nil => exact done.resolve_right List.not_mem_nil
  | cons first rest induction =>
      have free : pool.permitsTaken < pool.permits := by
        rwa [permitsTaken_of_rests rests]
      have ranks := rankAt_runThrough free (rests first)
      apply @induction
        (((pool.take (.grant first)).take (.start first)).take (.finish first))
      · exact Nat.lt_of_lt_of_eq available (takeAll_permits pool
          [.grant first, .start first, .finish first]).symm
      · intro other
        have rested := rests other
        simp only [RestsAt, ranks] at rested ⊢
        split_ifs <;> simp [rested]
      · rcases done with finished | member
        · left
          simp only [FinishedAt, ranks] at finished ⊢
          split_ifs <;> simp [finished]
        · rcases List.mem_cons.mp member with same | later
          · left
            rw [FinishedAt, ranks, if_pos same]
          · exact .inr later

theorem takeAll_append (pool : Pool σ) (first second : List Turn) :
    pool.takeAll (first ++ second) = (pool.takeAll first).takeAll second :=
  List.foldl_append

theorem takeAll_length (pool : Pool σ) (turns : List Turn) :
    (pool.takeAll turns).jobs.length = pool.jobs.length := by
  simpa only [List.length_map] using
    congrArg List.length (takeAll_tasks pool turns)

/-- Completion finishes all jobs. -/
theorem finishedAt_complete
    (available : 0 < pool.permits) (position : Nat) :
    pool.complete.FinishedAt position := by
  have covered (reached : Pool σ)
      (length : reached.jobs.length = pool.jobs.length) (position : Nat) :
      reached.FinishedAt position ∨
        position ∈ List.range pool.jobs.length := by
    by_cases inside : position < pool.jobs.length
    · exact .inr (List.mem_range.mpr inside)
    · left
      rw [FinishedAt, rankAt, List.getElem?_eq_none (by omega)]
  -- Closing the jobs that hold a permit makes room for the others.
  rw [complete, completion, takeAll_append]
  apply finishedAt_after_running
  · rwa [takeAll_permits]
  · intro other
    exact restsAt_after_closing ((covered pool rfl other).imp_left .inr)
  · exact covered _ (takeAll_length pool _) position

theorem finished_of_mem
    (finished : ∀ position, pool.FinishedAt position) {job : Job σ}
    (member : job ∈ pool.jobs) :
    ∃ result, job.phase = .finished result := by
  obtain ⟨position, found⟩ := List.getElem?_of_mem member
  exact Phase.rank_eq_three.mp
    ((rankAt_of_found found).symm.trans (finished position))

theorem startedTasks_of_finished
    (finished : ∀ position, pool.FinishedAt position) :
    pool.startedTasks = pool.jobs.map Job.task := by
  rw [startedTasks, ← List.filterMap_eq_map]
  apply List.filterMap_congr
  intro job member
  obtain ⟨result, phase⟩ := finished_of_mem finished member
  simp [Job.startedTask?, phase]

/-- The results of a finished pool stand in the order of its tasks. -/
theorem results_of_finished
    (finished : ∀ position, pool.FinishedAt position)
    (truthful : ∀ job ∈ pool.jobs, job.Truthful)
    (argumentsOnly : ∀ task ∈ pool.jobs.map Job.task,
      task.1.DependsOnArguments) (state : σ) :
    pool.results =
      (pool.jobs.map Job.task).map
        (fun task => (task.1.executeWith task.2 state).1) := by
  rw [results, List.map_map, ← List.filterMap_eq_map]
  apply List.filterMap_congr
  intro job member
  obtain ⟨result, phase⟩ := finished_of_mem finished member
  have answered := truthful job member
  simp only [Job.Truthful, phase] at answered
  obtain ⟨before, rfl⟩ := answered
  have same := (argumentsOnly job.task
    (List.mem_map_of_mem member)).executeWith_eq job.arguments before state
  simp only [Job.result?, phase]
  exact congrArg some same

end Pool

end Assay
