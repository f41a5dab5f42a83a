import Assay.Proofs.Instance
import Assay.Proofs.Suite.Resolution
import Assay.Proofs.Text.ByteOrder

/-!
# Resolution of many instances at once

All instances are resolved, or nothing is and everything that is wrong is
reported: a conflict of shared inputs before anything else, and otherwise one
report for every instance with a fault, in the order of the instances.
-/

namespace Assay

variable {σ τ : Type}

/-- Some parameter has no value, or some bound name is not declared. -/
def Faulty (globals : Arguments) (bound : Instance σ) : Prop :=
  (∃ parameter ∈ bound.metadata.parameters,
      ¬Resolvable globals bound.bindings parameter) ∨
    ∃ name binding, bound.bindings.find? name = some binding ∧
      ¬∃ parameter ∈ bound.metadata.parameters, parameter.name = name

theorem faulty_iff_not_wellBound
    (globals : Arguments) (bound : Instance σ) :
    Faulty globals bound ↔ ¬WellBound globals bound := by
  constructor
  · rintro (⟨parameter, member, unresolvable⟩ |
      ⟨name, binding, found, undeclared⟩) wellBound
    · exact unresolvable (wellBound.resolvable parameter member)
    · exact undeclared (wellBound.declared name binding found)
  · intro notWellBound
    by_contra notFaulty
    simp only [Faulty, not_or, not_exists, not_and, not_not] at notFaulty
    obtain ⟨resolvable, declared⟩ := notFaulty
    refine notWellBound ⟨?_, resolvable⟩
    intro name binding found
    obtain ⟨parameter, member, same⟩ := by
      simpa using declared name binding found
    exact ⟨parameter, member, same⟩

/-- The reports of the instances with a fault, from a position on. -/
def faults (globals : Arguments) (position : Nat)
    (instances : List (Instance σ)) : List BindingReport :=
  ((instances.zipIdx position).filter fun entry =>
    ¬WellBound globals entry.1).map fun entry =>
      faultReport globals entry.2 entry.1

namespace Resolution

theorem resolveFrom_reports
    {globals supplied : Arguments} {instances : List (Instance σ)}
    (carries : ∀ bound ∈ instances, Carries globals supplied bound.bindings)
    (position : Nat) :
    (resolveFrom globals supplied position instances).2 =
      faults globals position instances := by
  induction instances generalizing position with
  | nil => rfl
  | cons bound rest induction =>
      have boundCarries := carries bound List.mem_cons_self
      have restReports := induction
        (fun other member => carries other (List.mem_cons_of_mem _ member))
        (position + 1)
      by_cases wellBound : WellBound globals bound
      · simp [resolveFrom, resolveInstance_eq boundCarries, wellBound,
          restReports, faults]
      · simp [resolveFrom, resolveInstance_eq boundCarries, wellBound,
          restReports, faults]

theorem resolveFrom_completes
    {globals supplied : Arguments} {instances : List (Instance σ)}
    (carries : ∀ bound ∈ instances, Carries globals supplied bound.bindings)
    (distinct : ∀ bound ∈ instances,
      (bound.metadata.parameters.map (·.name)).Nodup)
    (wellBound : ∀ bound ∈ instances, WellBound globals bound)
    (position : Nat) :
    List.Forall₂ (Completes globals) instances
      (resolveFrom globals supplied position instances).1 := by
  induction instances generalizing position with
  | nil => exact .nil
  | cons bound rest induction =>
      have boundCarries := carries bound List.mem_cons_self
      have boundWellBound := wellBound bound List.mem_cons_self
      have restCompletes := induction
        (fun other member => carries other (List.mem_cons_of_mem _ member))
        (fun other member => distinct other (List.mem_cons_of_mem _ member))
        (fun other member => wellBound other (List.mem_cons_of_mem _ member))
        (position + 1)
      simp only [resolveFrom, resolveInstance_eq boundCarries,
        if_pos boundWellBound]
      exact .cons
        (completes_of_wellBound boundCarries
          (distinct bound List.mem_cons_self) boundWellBound)
        restCompletes

theorem faults_eq_nil_iff
    (globals : Arguments) (position : Nat) (instances : List (Instance σ)) :
    faults globals position instances = [] ↔
      ∀ bound ∈ instances, WellBound globals bound := by
  simp only [faults, List.map_eq_nil_iff, List.filter_eq_nil_iff,
    decide_eq_true_eq, not_not]
  constructor
  · intro every bound member
    obtain ⟨index, found⟩ := List.mem_iff_getElem?.mp member
    exact every (bound, position + index)
      (List.mk_add_mem_zipIdx_iff_getElem?.mpr found)
  · intro every entry member
    exact every entry.1 (List.fst_mem_of_mem_zipIdx member)

theorem resolveAll_of_collected
    {instances : List (Instance σ)} {inputs : List SuiteInput}
    (collected : collectInputs instances = .ok inputs) (globals : Arguments) :
    resolveAll instances globals =
      if ∀ bound ∈ instances, WellBound globals bound then
        .ok (resolveFrom globals (suppliedInputs inputs globals) 0 instances).1
      else .error (.unresolved (faults globals 0 instances)) := by
  have reports := resolveFrom_reports
    (carries_suppliedInputs collected globals) 0
  simp only [resolveAll, collected, reports, bind, Except.bind, pure,
    Except.pure, throw, throwThe, MonadExceptOf.throw, List.isEmpty_iff,
    faults_eq_nil_iff]

private theorem inputs_congr
    {left : Instance σ} {right : Instance τ}
    (sameBindings : left.bindings = right.bindings) :
    left.inputs = right.inputs := by
  unfold Instance.inputs
  rw [sameBindings]

private theorem resolveInstance_congr
    {left : Instance σ} {right : Instance τ}
    (sameMetadata : left.metadata = right.metadata)
    (sameBindings : left.bindings = right.bindings)
    (position : Nat) (globals supplied : Arguments) :
    resolveInstance position left globals supplied =
      resolveInstance position right globals supplied := by
  unfold resolveInstance unexpectedNames Instance.identity
  rw [sameMetadata, sameBindings]

private theorem resolveFrom_map
    {transform : Instance σ → Instance τ}
    (sameMetadata : ∀ bound, (transform bound).metadata = bound.metadata)
    (sameBindings : ∀ bound, (transform bound).bindings = bound.bindings)
    (globals supplied : Arguments) (position : Nat)
    (instances : List (Instance σ)) :
    resolveFrom globals supplied position (instances.map transform) =
      resolveFrom globals supplied position instances := by
  induction instances generalizing position with
  | nil => rfl
  | cons bound rest induction =>
      have sameInstance := resolveInstance_congr (sameMetadata bound)
        (sameBindings bound) position globals supplied
      rw [List.map_cons, resolveFrom, resolveFrom, induction, sameInstance]

/-- Resolution reads nothing of an instance but its metadata and bindings. -/
theorem resolveAll_map
    (transform : Instance σ → Instance τ)
    (sameMetadata : ∀ bound, (transform bound).metadata = bound.metadata)
    (sameBindings : ∀ bound, (transform bound).bindings = bound.bindings)
    (instances : List (Instance σ)) (globals : Arguments) :
    resolveAll (instances.map transform) globals =
      resolveAll instances globals := by
  have sameInputs :
      collectInputs (instances.map transform) = collectInputs instances := by
    have every : Instance.inputs ∘ transform = Instance.inputs :=
      funext fun bound => inputs_congr (sameBindings bound)
    unfold collectInputs
    rw [List.flatMap_map]
    exact congrArg (fun inputs => collectFrom [] (instances.flatMap inputs)) every
  simp only [resolveAll, sameInputs,
    resolveFrom_map sameMetadata sameBindings]

theorem resolveFrom_length
    (globals supplied : Arguments) (position : Nat)
    (instances : List (Instance σ)) :
    (resolveFrom globals supplied position instances).1.length +
        (resolveFrom globals supplied position instances).2.length =
      instances.length := by
  induction instances generalizing position with
  | nil => rfl
  | cons bound rest induction =>
      have restLength := induction (position + 1)
      simp only [resolveFrom]
      split <;> simp only [List.length_cons] <;> omega

/-- There is one table of arguments for every instance. -/
theorem resolveAll_length
    {instances : List (Instance σ)} {globals : Arguments}
    {resolved : List Arguments}
    (success : resolveAll instances globals = .ok resolved) :
    resolved.length = instances.length := by
  cases collected : collectInputs instances with
  | error error =>
      simp [resolveAll, collected, bind, Except.bind] at success
  | ok inputs =>
      have total := resolveFrom_length globals
        (suppliedInputs inputs globals) 0 instances
      have reports := resolveFrom_reports
        (carries_suppliedInputs collected globals) 0
      rw [resolveAll_of_collected collected] at success
      split at success
      · rename_i wellBound
        have none := (faults_eq_nil_iff globals 0 instances).mpr wellBound
        rw [reports, none] at total
        rw [← Except.ok.inj success]
        exact total
      · cases success

/-- Resolution succeeds exactly when the placeholders agree, every bound name
is declared and every parameter has a value; the arguments of an instance then
stand at its position. -/
theorem resolveAll_succeeds_iff_completes
    (instances : List (Instance σ)) (globals : Arguments)
    (obtained : ∀ bound ∈ instances, bound.Obtained) :
    ((∃ resolved, resolveAll instances globals = .ok resolved) ↔
      Agreeing instances ∧
        (∀ bound ∈ instances, ∀ name binding,
          bound.bindings.find? name = some binding →
            ∃ parameter ∈ bound.metadata.parameters, parameter.name = name) ∧
        ∀ bound ∈ instances, ∀ parameter ∈ bound.metadata.parameters,
          Resolvable globals bound.bindings parameter) ∧
      ∀ resolved, resolveAll instances globals = .ok resolved →
        List.Forall₂ (Completes globals) instances resolved := by
  cases collected : collectInputs instances with
  | error error =>
      have disagreeing := (collectInputs_eq_error collected).2
      have failed : resolveAll instances globals = .error error := by
        simp [resolveAll, collected, bind, Except.bind]
      simp [failed, disagreeing]
  | ok inputs =>
      have agreeing := agreeing_of_collectInputs collected
      rw [resolveAll_of_collected collected]
      by_cases wellBound : ∀ bound ∈ instances, WellBound globals bound
      · rw [if_pos wellBound]
        refine ⟨iff_of_true ⟨_, rfl⟩ ⟨agreeing, ?_, ?_⟩, ?_⟩
        · intro bound member
          exact (wellBound bound member).declared
        · intro bound member
          exact (wellBound bound member).resolvable
        · rintro resolved ⟨⟩
          exact resolveFrom_completes
            (carries_suppliedInputs collected globals)
            (fun bound member => (obtained bound member).parameters_distinct)
            wellBound 0
      · rw [if_neg wellBound]
        refine ⟨iff_of_false ?_ ?_, ?_⟩
        · rintro ⟨resolved, ⟨⟩⟩
        · intro ⟨_, declared, resolvable⟩
          exact wellBound fun bound member =>
            ⟨declared bound member, resolvable bound member⟩
        · rintro resolved ⟨⟩

/-- A check of a model against a threshold whose default is null. -/
def thresholdCheck : Definition Unit where
  declaration :=
    { moduleName := "checks"
      name := "auc"
      displayName := none
      doc := ""
      moduleDoc := ""
      code := ""
      tags := []
      parameters :=
        [⟨"model", .object "Model", none⟩, ⟨"threshold", .float, some .null⟩]
      kind := .function }
  logic := fun _ state => (.ok (.verdict true), state)

/-- The model is wired to a placeholder of another name. -/
def thresholdInstance : Instance Unit :=
  (⟨thresholdCheck.declaration.metadata, thresholdCheck.logic, .empty⟩ :
    Instance Unit).withInput "model" ⟨"candidate", .object "Model"⟩

def thresholdGlobals : Arguments :=
  (NameTable.empty.insert "candidate" (.json (.string "first"))).insert
    "model" (.json (.string "second"))

theorem thresholdInstance_obtained : thresholdInstance.Obtained := by
  have namesChecked : thresholdCheck.declaration.checkNames = .ok () := rfl
  have parametersChecked : Declaration.checkParameters []
      thresholdCheck.declaration.parameters = .ok () := rfl
  have accepted : thresholdCheck.declaration.toMetadata =
      .ok thresholdCheck.declaration.metadata := by
    simp [Declaration.toMetadata, namesChecked, parametersChecked, bind,
      Except.bind, pure, Except.pure]
  have unknown : Registry.empty.find?
      thresholdCheck.declaration.metadata.identity = none := rfl
  have success := congrArg Prod.fst
    (Definition.bind_eq_of_unknown accepted unknown)
  unfold thresholdInstance
  apply Instance.Obtained.bindTo
  exact ⟨thresholdCheck, .empty, _, success, rfl⟩

theorem thresholdInstance_find?_bindings
    {name : String} {binding : Binding}
    (found : thresholdInstance.bindings.find? name = some binding) :
    name = "model" ∧ binding = .input ⟨"candidate", .object "Model"⟩ := by
  change (NameTable.empty.insert "model" _).find? name = some binding at found
  simp only [NameTable.find?_insert, NameTable.find?_empty] at found
  split at found
  · rename_i same
    exact ⟨same.symm, (Option.some.inj found).symm⟩
  · cases found

/-- The global of the name of the parameter is passed over for the one of the
placeholder, and null is a value. -/
theorem resolveAll_threshold_completes :
    thresholdInstance.Obtained ∧
      ∃ arguments,
        resolveAll [thresholdInstance] thresholdGlobals = .ok [arguments] ∧
          arguments.find? "model" = some (.json (.string "first")) ∧
          arguments.find? "threshold" = some (.json .null) := by
  have obtained : ∀ bound ∈ [thresholdInstance], bound.Obtained := by
    intro bound member
    rw [List.mem_singleton.mp member]
    exact thresholdInstance_obtained
  obtain ⟨succeeds, completes⟩ :=
    resolveAll_succeeds_iff_completes [thresholdInstance] thresholdGlobals
      obtained
  have modelSupplied : Supplies thresholdGlobals thresholdInstance.bindings
      ⟨"model", .object "Model", none⟩ (.json (.string "first")) :=
    .shared rfl rfl
  have thresholdSupplied : Supplies thresholdGlobals thresholdInstance.bindings
      ⟨"threshold", .float, some .null⟩ (.json .null) :=
    .default rfl rfl rfl
  have agreeing : Agreeing [thresholdInstance] := by
    intro left right ⟨_, leftMember, _, leftFound⟩
      ⟨_, rightMember, _, rightFound⟩ _
    rw [List.mem_singleton.mp leftMember] at leftFound
    rw [List.mem_singleton.mp rightMember] at rightFound
    have leftShape := (thresholdInstance_find?_bindings leftFound).2
    have rightShape := (thresholdInstance_find?_bindings rightFound).2
    cases leftShape
    cases rightShape
    rfl
  have declared : ∀ bound ∈ [thresholdInstance], ∀ name binding,
      bound.bindings.find? name = some binding →
        ∃ parameter ∈ bound.metadata.parameters, parameter.name = name := by
    intro bound member name binding found
    rw [List.mem_singleton.mp member] at found ⊢
    exact ⟨⟨"model", .object "Model", none⟩, List.mem_cons_self,
      (thresholdInstance_find?_bindings found).1.symm⟩
  have resolvable : ∀ bound ∈ [thresholdInstance],
      ∀ parameter ∈ bound.metadata.parameters,
        Resolvable thresholdGlobals bound.bindings parameter := by
    intro bound member parameter parameterMember
    rw [List.mem_singleton.mp member] at parameterMember ⊢
    rcases List.mem_cons.mp parameterMember with rfl | later
    · exact ⟨_, modelSupplied⟩
    · rw [List.mem_singleton.mp later]
      exact ⟨_, thresholdSupplied⟩
  obtain ⟨resolved, success⟩ :=
    succeeds.mpr ⟨agreeing, declared, resolvable⟩
  obtain ⟨arguments, others, completed, othersComplete, rfl⟩ :=
    List.forall₂_cons_left_iff.mp (completes resolved success)
  obtain rfl : others = [] := List.forall₂_nil_left_iff.mp othersComplete
  refine ⟨thresholdInstance_obtained, arguments, success, ?_, ?_⟩
  · exact (completed.values _ List.mem_cons_self _).mpr modelSupplied
  · exact (completed.values _ (List.mem_cons_of_mem _ List.mem_cons_self)
      _).mpr thresholdSupplied

end Resolution

/-- A report tells all that is wrong with an instance, and nothing else. -/
structure DescribesFaults (globals : Arguments) (bound : Instance σ)
    (report : BindingReport) : Prop where
  identity : report.identity = bound.identity
  name : report.name = bound.metadata.displayName
  missing : report.missing =
    (bound.metadata.parameters.filter fun parameter =>
      ¬Resolvable globals bound.bindings parameter).map
        (missingEntry bound.bindings)
  wired : ∀ entry ∈ report.missing, ∀ wired, entry.input = some wired ↔
    ∃ placeholder, bound.bindings.find? entry.name = some (.input placeholder) ∧
      placeholder.name = wired
  unexpected : ∀ name, name ∈ report.unexpected ↔
    (∃ binding, bound.bindings.find? name = some binding) ∧
      ¬∃ parameter ∈ bound.metadata.parameters, parameter.name = name
  ascending : report.unexpected.Pairwise fun earlier later =>
    Text.bytes earlier < Text.bytes later
  nonempty : report.isEmpty = false

/-- The reports of a list of instances: one for every faulty instance and none
for another, by ascending position. -/
structure ReportsFaults (globals : Arguments) (instances : List (Instance σ))
    (reports : List BindingReport) : Prop where
  ascending : (reports.map (·.position)).Pairwise (· < ·)
  sound : ∀ report ∈ reports, ∃ bound,
    instances[report.position]? = some bound ∧ Faulty globals bound ∧
      DescribesFaults globals bound report
  complete : ∀ position bound, instances[position]? = some bound →
    Faulty globals bound → ∃ report ∈ reports, report.position = position

theorem describesFaults_faultReport
    {globals : Arguments} {bound : Instance σ} (faulty : Faulty globals bound)
    (position : Nat) :
    DescribesFaults globals bound (faultReport globals position bound) where
  identity := rfl
  name := rfl
  missing := rfl
  wired := by
    intro entry member wired
    obtain ⟨parameter, _, rfl⟩ := List.mem_map.mp member
    exact wiredName?_eq_some_iff bound.bindings parameter.name wired
  unexpected := Resolution.mem_unexpectedNames_iff bound
  ascending :=
    (Resolution.unexpectedNames_ascending bound).imp
      fun below => (Text.lt_iff_bytes_lt _ _).mp below
  nonempty := by
    rw [← Bool.not_eq_true, Resolution.faultReport_isEmpty_iff]
    exact (faulty_iff_not_wellBound globals bound).mp faulty

theorem reportsFaults_faults
    (globals : Arguments) (instances : List (Instance σ)) :
    ReportsFaults globals instances (faults globals 0 instances) where
  ascending := by
    have positions : (instances.zipIdx.map (·.2)).Pairwise (· < ·) := by
      rw [List.zipIdx_map_snd]
      exact List.pairwise_lt_range'
    have reported : (faults globals 0 instances).map (·.position) =
        (instances.zipIdx.filter fun entry =>
          ¬WellBound globals entry.1).map (·.2) := by
      rw [faults, List.map_map]
      rfl
    rw [reported]
    exact positions.sublist (List.filter_sublist.map _)
  sound := by
    intro report member
    obtain ⟨⟨bound, position⟩, kept, rfl⟩ := List.mem_map.mp member
    obtain ⟨listed, notWellBound⟩ := List.mem_filter.mp kept
    have faulty : Faulty globals bound :=
      (faulty_iff_not_wellBound globals bound).mpr (by simpa using notWellBound)
    exact ⟨bound, List.mk_mem_zipIdx_iff_getElem?.mp listed, faulty,
      describesFaults_faultReport faulty position⟩
  complete := by
    intro position bound found faulty
    have notWellBound := (faulty_iff_not_wellBound globals bound).mp faulty
    refine ⟨faultReport globals position bound, ?_, rfl⟩
    exact List.mem_map.mpr ⟨(bound, position),
      List.mem_filter.mpr ⟨List.mk_mem_zipIdx_iff_getElem?.mpr found,
        by simpa using notWellBound⟩, rfl⟩

namespace Resolution

/-- A failure names a conflict of placeholders if there is one, and otherwise
reports every fault of every instance. -/
theorem resolveAll_reports_every_fault
    (instances : List (Instance σ)) (globals : Arguments) :
    (¬Agreeing instances → ∃ name first second,
      resolveAll instances globals =
        .error (.conflictingInput name first second)) ∧
      (Agreeing instances → (∃ bound ∈ instances, Faulty globals bound) →
        ∃ reports, resolveAll instances globals = .error (.unresolved reports) ∧
          ReportsFaults globals instances reports) ∧
      (Agreeing instances → (∀ bound ∈ instances, ¬Faulty globals bound) →
        ∃ resolved, resolveAll instances globals = .ok resolved) := by
  cases collected : collectInputs instances with
  | error error =>
      obtain ⟨⟨name, first, second, rfl⟩, disagreeing⟩ :=
        collectInputs_eq_error collected
      have failed : resolveAll instances globals =
          .error (.conflictingInput name first second) := by
        simp [resolveAll, collected, bind, Except.bind]
      refine ⟨fun _ => ⟨name, first, second, failed⟩, ?_, ?_⟩
      · intro agreeing
        exact absurd agreeing disagreeing
      · intro agreeing
        exact absurd agreeing disagreeing
  | ok inputs =>
      have agreeing := agreeing_of_collectInputs collected
      rw [resolveAll_of_collected collected]
      refine ⟨fun disagreeing => absurd agreeing disagreeing, ?_, ?_⟩
      · intro _ ⟨bound, member, faulty⟩
        have someNotWellBound :
            ¬∀ bound ∈ instances, WellBound globals bound := by
          intro every
          exact (faulty_iff_not_wellBound globals bound).mp faulty
            (every bound member)
        rw [if_neg someNotWellBound]
        exact ⟨faults globals 0 instances, rfl,
          reportsFaults_faults globals instances⟩
      · intro _ noneFaulty
        have wellBound : ∀ bound ∈ instances, WellBound globals bound := by
          intro bound member
          by_contra notWellBound
          exact noneFaulty bound member
            ((faulty_iff_not_wellBound globals bound).mpr notWellBound)
        rw [if_pos wellBound]
        exact ⟨_, rfl⟩

end Resolution

end Assay
