import Assay.Proofs.Suite.CombinedResolution

/-!
# Resolution is local

The table of shared inputs is made from all instances, but an instance looks up
nothing in it that the globals do not tell as well.  The arguments of an
instance therefore depend on the globals that it consults and on nothing else
of its suite.
-/

namespace Assay

variable {σ : Type}

/-- The names whose globals an instance looks up: its unbound parameters and the
placeholders that it is wired to. -/
def Instance.Consults (bound : Instance σ) (name : String) : Prop :=
  ((∃ parameter ∈ bound.metadata.parameters, parameter.name = name) ∧
      bound.bindings.find? name = none) ∨
    ∃ parameter placeholder,
      bound.bindings.find? parameter = some (.input placeholder) ∧
        placeholder.name = name

/-- Two tables of globals are the same for an instance. -/
def Instance.SeesSame (bound : Instance σ) (left right : Arguments) : Prop :=
  ∀ name, bound.Consults name → left.find? name = right.find? name

namespace Instance.SeesSame

variable {bound : Instance σ} {left right : Arguments}

theorem symm (same : bound.SeesSame left right) : bound.SeesSame right left :=
  fun name consulted => (same name consulted).symm

theorem supplies
    (same : bound.SeesSame left right) {parameter : Parameter}
    (member : parameter ∈ bound.metadata.parameters) {value : ArgumentValue}
    (supplied : Supplies left bound.bindings parameter value) :
    Supplies right bound.bindings parameter value := by
  have sameOwn (unbound : bound.bindings.find? parameter.name = none) :
      left.find? parameter.name = right.find? parameter.name :=
    same _ (Or.inl ⟨⟨parameter, member, rfl⟩, unbound⟩)
  cases supplied with
  | bound found => exact .bound found
  | @shared placeholder _ found given =>
      have sameShared := same _ (Or.inr ⟨_, placeholder, found, rfl⟩)
      exact .shared found (sameShared ▸ given)
  | global unbound given => exact .global unbound (sameOwn unbound ▸ given)
  | default unbound absent optional =>
      exact .default unbound (sameOwn unbound ▸ absent) optional

theorem supplies_iff
    (same : bound.SeesSame left right) {parameter : Parameter}
    (member : parameter ∈ bound.metadata.parameters) (value : ArgumentValue) :
    Supplies left bound.bindings parameter value ↔
      Supplies right bound.bindings parameter value :=
  ⟨same.supplies member, same.symm.supplies member⟩

theorem resolvable_iff
    (same : bound.SeesSame left right) {parameter : Parameter}
    (member : parameter ∈ bound.metadata.parameters) :
    Resolvable left bound.bindings parameter ↔
      Resolvable right bound.bindings parameter :=
  exists_congr (same.supplies_iff member)

theorem wellBound
    (same : bound.SeesSame left right) (wellBound : WellBound left bound) :
    WellBound right bound := by
  constructor
  · exact wellBound.declared
  · intro parameter member
    exact (same.resolvable_iff member).mp (wellBound.resolvable parameter member)

theorem wellBound_iff (same : bound.SeesSame left right) :
    WellBound left bound ↔ WellBound right bound :=
  ⟨same.wellBound, same.symm.wellBound⟩

theorem faultReport_eq (same : bound.SeesSame left right) (position : Nat) :
    faultReport left position bound = faultReport right position bound := by
  have sameFilter :
      (bound.metadata.parameters.filter fun parameter =>
          ¬Resolvable left bound.bindings parameter) =
        bound.metadata.parameters.filter fun parameter =>
          ¬Resolvable right bound.bindings parameter := by
    apply List.filter_congr
    intro parameter member
    simp only [same.resolvable_iff member]
  simp only [faultReport, sameFilter]

end Instance.SeesSame

/-- The report of an instance, if there is anything wrong with it. -/
def faultsOf (globals : Arguments) (position : Nat) (bound : Instance σ) :
    List BindingReport :=
  if WellBound globals bound then [] else [faultReport globals position bound]

theorem Instance.SeesSame.faultsOf_eq
    {bound : Instance σ} {left right : Arguments}
    (same : bound.SeesSame left right) (position : Nat) :
    faultsOf left position bound = faultsOf right position bound := by
  simp only [faultsOf, same.wellBound_iff, same.faultReport_eq]

theorem faults_eq_flatMap
    (globals : Arguments) (position : Nat) (instances : List (Instance σ)) :
    faults globals position instances =
      (instances.zipIdx position).flatMap fun entry =>
        faultsOf globals entry.2 entry.1 := by
  unfold faults
  induction instances.zipIdx position with
  | nil => rfl
  | cons entry rest induction =>
      rw [List.flatMap_cons, ← induction]
      by_cases wellBound : WellBound globals entry.1
      · simp [faultsOf, wellBound]
      · simp [faultsOf, wellBound]

/-- What the outcome of a resolution tells of instances; a conflict of
placeholders tells of none. -/
def reportsOf {α : Type} : Except BindingError α → List BindingReport
  | .ok _ => []
  | .error error => error.reports

namespace Resolution

/-- The arguments of an instance that looks everything up in the globals. -/
def argumentsFrom (globals : Arguments) (bound : Instance σ) : Arguments :=
  (resolveParameters bound.bindings globals globals bound.metadata.parameters
    .empty).1

/-- Parameters with the same sources have the same value. -/
theorem resolveParameter_congr
    {left leftSupplied right rightSupplied : Arguments}
    {bindings : NameTable Binding} {parameter : Parameter}
    (leftCarries : Carries left leftSupplied bindings)
    (rightCarries : Carries right rightSupplied bindings)
    (same : ∀ value, Supplies left bindings parameter value ↔
      Supplies right bindings parameter value) :
    resolveParameter bindings left leftSupplied parameter =
      resolveParameter bindings right rightSupplied parameter := by
  by_cases resolvable : Resolvable left bindings parameter
  · obtain ⟨value, supplies⟩ := resolvable
    rw [resolveParameter_of_supplies leftCarries supplies,
      resolveParameter_of_supplies rightCarries ((same value).mp supplies)]
  · have alsoUnresolvable : ¬Resolvable right bindings parameter :=
      fun ⟨value, supplies⟩ => resolvable ⟨value, (same value).mpr supplies⟩
    rw [resolveParameter_of_not_resolvable leftCarries resolvable,
      resolveParameter_of_not_resolvable rightCarries alsoUnresolvable]

theorem resolveParameters_congr
    {left leftSupplied right rightSupplied : Arguments}
    {bindings : NameTable Binding} {parameters : List Parameter}
    (leftCarries : Carries left leftSupplied bindings)
    (rightCarries : Carries right rightSupplied bindings)
    (same : ∀ parameter ∈ parameters, ∀ value,
      Supplies left bindings parameter value ↔
        Supplies right bindings parameter value)
    (resolved : Arguments) :
    resolveParameters bindings left leftSupplied parameters resolved =
      resolveParameters bindings right rightSupplied parameters resolved := by
  induction parameters generalizing resolved with
  | nil => rfl
  | cons parameter rest induction =>
      obtain ⟨sameFirst, sameRest⟩ := List.forall_mem_cons.mp same
      simp only [resolveParameters, induction sameRest,
        resolveParameter_congr leftCarries rightCarries sameFirst]

theorem argumentsFrom_congr
    {bound : Instance σ} {left right : Arguments}
    (same : bound.SeesSame left right) :
    argumentsFrom left bound = argumentsFrom right bound := by
  unfold argumentsFrom
  rw [resolveParameters_congr (carries_self left bound.bindings)
    (carries_self right bound.bindings)
    (fun parameter member => same.supplies_iff member)]

/-- The supplied inputs of a suite make no difference to an instance. -/
theorem resolveInstance_of_carries
    {globals supplied : Arguments} {bound : Instance σ}
    (carries : Carries globals supplied bound.bindings) (position : Nat) :
    resolveInstance position bound globals supplied =
      if WellBound globals bound then .ok (argumentsFrom globals bound)
      else .error (faultReport globals position bound) := by
  rw [resolveInstance_eq carries, argumentsFrom,
    resolveParameters_congr carries (carries_self globals bound.bindings)
      (fun _ _ _ => Iff.rfl)]

theorem resolveFrom_arguments
    {globals supplied : Arguments} {instances : List (Instance σ)}
    (carries : ∀ bound ∈ instances, Carries globals supplied bound.bindings)
    (wellBound : ∀ bound ∈ instances, WellBound globals bound)
    (position : Nat) :
    (resolveFrom globals supplied position instances).1 =
      instances.map (argumentsFrom globals) := by
  induction instances generalizing position with
  | nil => rfl
  | cons bound rest induction =>
      obtain ⟨boundCarries, restCarries⟩ := List.forall_mem_cons.mp carries
      obtain ⟨boundWellBound, restWellBound⟩ :=
        List.forall_mem_cons.mp wellBound
      simp only [resolveFrom, resolveInstance_of_carries boundCarries,
        if_pos boundWellBound, List.map_cons,
        induction restCarries restWellBound]

/-- When the placeholders agree, every instance is resolved for itself. -/
theorem resolveAll_of_agreeing
    {instances : List (Instance σ)} (agreeing : Agreeing instances)
    (globals : Arguments) :
    resolveAll instances globals =
      if ∀ bound ∈ instances, WellBound globals bound then
        .ok (instances.map (argumentsFrom globals))
      else .error (.unresolved (faults globals 0 instances)) := by
  obtain ⟨inputs, collected⟩ := collectInputs_of_agreeing agreeing
  rw [resolveAll_of_collected collected]
  split
  · rename_i wellBound
    rw [resolveFrom_arguments (carries_suppliedInputs collected globals)
      wellBound]
  · rfl

/-- A conflict of placeholders shows with any globals. -/
theorem resolveAll_of_not_agreeing
    {instances : List (Instance σ)} (disagreeing : ¬Agreeing instances) :
    ∃ name first second, ∀ globals, resolveAll instances globals =
      .error (.conflictingInput name first second) := by
  cases collected : collectInputs instances with
  | ok inputs =>
      exact absurd (agreeing_of_collectInputs collected) disagreeing
  | error error =>
      obtain ⟨⟨name, first, second, rfl⟩, _⟩ :=
        collectInputs_eq_error collected
      refine ⟨name, first, second, fun globals => ?_⟩
      simp [resolveAll, collected, bind, Except.bind]

theorem resolveAll_eq_ok_iff
    {instances : List (Instance σ)} {globals : Arguments}
    {resolved : List Arguments} :
    resolveAll instances globals = .ok resolved ↔
      Agreeing instances ∧ (∀ bound ∈ instances, WellBound globals bound) ∧
        instances.map (argumentsFrom globals) = resolved := by
  by_cases agreeing : Agreeing instances
  · rw [resolveAll_of_agreeing agreeing, and_iff_right agreeing]
    by_cases wellBound : ∀ bound ∈ instances, WellBound globals bound
    · rw [if_pos wellBound, and_iff_right wellBound, Except.ok.injEq]
    · rw [if_neg wellBound]
      exact iff_of_false nofun fun all => wellBound all.1
  · obtain ⟨_, _, _, conflict⟩ := resolveAll_of_not_agreeing agreeing
    simp [conflict, agreeing]

theorem resolveAll_eq_unresolved_iff
    {instances : List (Instance σ)} {globals : Arguments}
    {reports : List BindingReport} :
    resolveAll instances globals = .error (.unresolved reports) ↔
      Agreeing instances ∧ (¬∀ bound ∈ instances, WellBound globals bound) ∧
        faults globals 0 instances = reports := by
  by_cases agreeing : Agreeing instances
  · rw [resolveAll_of_agreeing agreeing, and_iff_right agreeing]
    by_cases wellBound : ∀ bound ∈ instances, WellBound globals bound
    · rw [if_pos wellBound]
      exact iff_of_false nofun fun failed => failed.1 wellBound
    · rw [if_neg wellBound, and_iff_right wellBound, Except.error.injEq,
        BindingError.unresolved.injEq]
  · obtain ⟨_, _, _, conflict⟩ := resolveAll_of_not_agreeing agreeing
    simp [conflict, agreeing]

theorem reportsOf_resolveAll
    {instances : List (Instance σ)} (agreeing : Agreeing instances)
    (globals : Arguments) :
    reportsOf (resolveAll instances globals) = faults globals 0 instances := by
  rw [resolveAll_of_agreeing agreeing]
  split
  · rename_i wellBound
    exact ((faults_eq_nil_iff globals 0 instances).mpr wellBound).symm
  · rfl

/-- Globals that no instance consults make no difference. -/
theorem resolveAll_congr
    {instances : List (Instance σ)} {left right : Arguments}
    (same : ∀ bound ∈ instances, bound.SeesSame left right) :
    resolveAll instances left = resolveAll instances right := by
  by_cases agreeing : Agreeing instances
  · have sameWellBound : (∀ bound ∈ instances, WellBound left bound) ↔
        ∀ bound ∈ instances, WellBound right bound :=
      forall₂_congr fun bound member => (same bound member).wellBound_iff
    have sameArguments : instances.map (argumentsFrom left) =
        instances.map (argumentsFrom right) :=
      List.map_congr_left fun bound member =>
        argumentsFrom_congr (same bound member)
    have sameFaults : faults left 0 instances = faults right 0 instances := by
      rw [faults_eq_flatMap, faults_eq_flatMap]
      apply List.flatMap_congr
      intro entry member
      exact (same entry.1 (List.fst_mem_of_mem_zipIdx member)).faultsOf_eq _
    simp only [resolveAll_of_agreeing agreeing, sameWellBound, sameArguments,
      sameFaults]
  · obtain ⟨_, _, _, conflict⟩ := resolveAll_of_not_agreeing agreeing
    rw [conflict left, conflict right]

end Resolution

end Assay
