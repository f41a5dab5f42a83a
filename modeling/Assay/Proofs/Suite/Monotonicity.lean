import Assay.Proofs.Suite.Locality

/-!
# More globals

What can be resolved with some globals can be resolved with more of them.  A
global that is added can only take the place of a default, or supply a
parameter that was missing; it never makes a parameter missing, and what is
wrong with the names and the placeholders of a suite stays wrong.
-/

namespace Assay

variable {σ : Type}

/-- Every global is there in the larger table, with the same value. -/
def Arguments.ExtendedBy (smaller larger : Arguments) : Prop :=
  ∀ name value, smaller.find? name = some value →
    larger.find? name = some value

/-- A global that is there only in the larger table takes the place of the
default of an unbound parameter. -/
structure Displaces (smaller larger : Arguments) (bindings : NameTable Binding)
    (parameter : Parameter) (content : Json.Value) (value : ArgumentValue) :
    Prop where
  unbound : bindings.find? parameter.name = none
  optional : parameter.default = some content
  absent : smaller.find? parameter.name = none
  given : larger.find? parameter.name = some value

/-- What two tables of arguments of an instance hold at a name: the same, or a
default and what takes its place. -/
inductive GivesWay (smaller larger : Arguments) (bound : Instance σ)
    (name : String) : Option ArgumentValue → Option ArgumentValue → Prop where
  | unchanged (value : Option ArgumentValue) :
      GivesWay smaller larger bound name value value
  | displaced {parameter : Parameter} {content : Json.Value}
      {value : ArgumentValue} :
      parameter ∈ bound.metadata.parameters → parameter.name = name →
      Displaces smaller larger bound.bindings parameter content value →
      GivesWay smaller larger bound name (some (.json content)) (some value)

/-- A name that the instance binds keeps its value. -/
theorem GivesWay.eq_of_bound
    {smaller larger : Arguments} {bound : Instance σ} {name : String}
    {before after : Option ArgumentValue} {binding : Binding}
    (givesWay : GivesWay smaller larger bound name before after)
    (found : bound.bindings.find? name = some binding) :
    before = after := by
  cases givesWay with
  | unchanged value => rfl
  | displaced _ sameName displaces =>
      have unbound := displaces.unbound
      rw [sameName, found] at unbound
      cases unbound

/-- The reports are of one instance, and the fuller one tells every missing
parameter of the other. -/
structure CoveredBy (report fuller : BindingReport) : Prop where
  position : fuller.position = report.position
  identity : fuller.identity = report.identity
  name : fuller.name = report.name
  missing : report.missing.Sublist fuller.missing

/-- The unexpected names that some reports tell of the instance at a
position. -/
def unexpectedAt (position : Nat) (reports : List BindingReport) :
    List String :=
  (reports.filter (·.position == position)).flatMap (·.unexpected)

variable {smaller larger : Arguments}

theorem Supplies.of_extendedBy
    (extended : smaller.ExtendedBy larger) {bindings : NameTable Binding}
    {parameter : Parameter} {value : ArgumentValue}
    (supplied : Supplies smaller bindings parameter value) :
    Supplies larger bindings parameter value ∨
      ∃ content later, value = .json content ∧
        Displaces smaller larger bindings parameter content later := by
  cases supplied with
  | bound found => exact Or.inl (.bound found)
  | shared found given => exact Or.inl (.shared found (extended _ _ given))
  | global unbound given => exact Or.inl (.global unbound (extended _ _ given))
  | @default content unbound absent optional =>
      cases given : larger.find? parameter.name with
      | none => exact Or.inl (.default unbound given optional)
      | some later =>
          exact Or.inr ⟨content, later, rfl, unbound, optional, absent, given⟩

theorem Displaces.supplies
    {bindings : NameTable Binding} {parameter : Parameter}
    {content : Json.Value} {value : ArgumentValue}
    (displaces : Displaces smaller larger bindings parameter content value) :
    Supplies larger bindings parameter value :=
  .global displaces.unbound displaces.given

theorem Resolvable.of_extendedBy
    (extended : smaller.ExtendedBy larger) {bindings : NameTable Binding}
    {parameter : Parameter}
    (resolvable : Resolvable smaller bindings parameter) :
    Resolvable larger bindings parameter := by
  obtain ⟨value, supplied⟩ := resolvable
  rcases supplied.of_extendedBy extended with kept | ⟨_, later, _, displaces⟩
  · exact ⟨value, kept⟩
  · exact ⟨later, displaces.supplies⟩

theorem WellBound.of_extendedBy
    (extended : smaller.ExtendedBy larger) {bound : Instance σ}
    (wellBound : WellBound smaller bound) :
    WellBound larger bound := by
  constructor
  · exact wellBound.declared
  · intro parameter member
    exact (wellBound.resolvable parameter member).of_extendedBy extended

/-! ## What is wrong -/

theorem missing_sublist_of_extendedBy
    (extended : smaller.ExtendedBy larger) (position : Nat)
    (bound : Instance σ) :
    (faultReport larger position bound).missing.Sublist
      (faultReport smaller position bound).missing := by
  apply List.Sublist.map
  apply List.monotone_filter_right
  intro parameter unresolvable
  have notLarger : ¬Resolvable larger bound.bindings parameter := by
    simpa using unresolvable
  have notSmaller : ¬Resolvable smaller bound.bindings parameter :=
    fun resolvable => notLarger (resolvable.of_extendedBy extended)
  simpa using notSmaller

theorem unexpectedNames_of_wellBound
    {globals : Arguments} {bound : Instance σ}
    (wellBound : WellBound globals bound) :
    Resolution.unexpectedNames bound = [] := by
  have empty := (Resolution.faultReport_isEmpty_iff globals 0 bound).mpr
    wellBound
  simp only [BindingReport.isEmpty, Bool.and_eq_true, List.isEmpty_iff] at empty
  exact empty.2

/-- Unexpected names are reported whatever the globals are. -/
theorem unexpectedAt_faultsOf
    (globals : Arguments) (sought position : Nat) (bound : Instance σ) :
    unexpectedAt sought (faultsOf globals position bound) =
      if position = sought then Resolution.unexpectedNames bound else [] := by
  by_cases wellBound : WellBound globals bound
  · simp [faultsOf, wellBound, unexpectedAt,
      unexpectedNames_of_wellBound wellBound]
  · by_cases here : position = sought
    · simp [faultsOf, wellBound, unexpectedAt, faultReport, here]
    · simp [faultsOf, wellBound, unexpectedAt, faultReport, here]

theorem unexpectedAt_faults
    (left right : Arguments) (sought position : Nat)
    (instances : List (Instance σ)) :
    unexpectedAt sought (faults left position instances) =
      unexpectedAt sought (faults right position instances) := by
  have each (globals : Arguments) :
      unexpectedAt sought (faults globals position instances) =
        (instances.zipIdx position).flatMap fun entry =>
          unexpectedAt sought (faultsOf globals entry.2 entry.1) := by
    rw [faults_eq_flatMap, unexpectedAt, List.filter_flatMap,
      List.flatMap_assoc]
    rfl
  simp only [each, unexpectedAt_faultsOf]

theorem exists_fuller_report
    (extended : smaller.ExtendedBy larger) {position : Nat}
    {instances : List (Instance σ)} {report : BindingReport}
    (member : report ∈ faults larger position instances) :
    ∃ fuller ∈ faults smaller position instances, CoveredBy report fuller := by
  obtain ⟨⟨bound, index⟩, kept, rfl⟩ := List.mem_map.mp member
  obtain ⟨listed, notWellBound⟩ := List.mem_filter.mp kept
  have alsoNotWellBound : ¬WellBound smaller bound := by
    intro wellBound
    simp [wellBound.of_extendedBy extended] at notWellBound
  refine ⟨faultReport smaller index bound, ?_, rfl, rfl, rfl,
    missing_sublist_of_extendedBy extended index bound⟩
  apply List.mem_map.mpr
  refine ⟨(bound, index), List.mem_filter.mpr ⟨listed, ?_⟩, rfl⟩
  simpa using alsoNotWellBound

/-! ## What is resolved -/

namespace Resolution

/-- A later parameter of the same name replaces both values at once. -/
theorem resolveParameters_givesWay
    (extended : smaller.ExtendedBy larger) {bound : Instance σ}
    {parameters : List Parameter}
    (declared : ∀ parameter ∈ parameters,
      parameter ∈ bound.metadata.parameters)
    (resolvable : ∀ parameter ∈ parameters,
      Resolvable smaller bound.bindings parameter)
    {before after : Arguments}
    (givesWay : ∀ name, GivesWay smaller larger bound name
      (before.find? name) (after.find? name)) :
    ∀ name, GivesWay smaller larger bound name
      ((resolveParameters bound.bindings smaller smaller parameters
        before).1.find? name)
      ((resolveParameters bound.bindings larger larger parameters
        after).1.find? name) := by
  induction parameters generalizing before after with
  | nil => exact givesWay
  | cons parameter rest induction =>
      obtain ⟨firstDeclared, restDeclared⟩ := List.forall_mem_cons.mp declared
      obtain ⟨⟨value, supplied⟩, restResolvable⟩ :=
        List.forall_mem_cons.mp resolvable
      obtain ⟨later, laterSupplied, ofFirst⟩ :
          ∃ later, Supplies larger bound.bindings parameter later ∧
            GivesWay smaller larger bound parameter.name (some value)
              (some later) := by
        rcases supplied.of_extendedBy extended with
          kept | ⟨content, later, rfl, displaces⟩
        · exact ⟨value, kept, .unchanged _⟩
        · exact ⟨later, displaces.supplies,
            .displaced firstDeclared rfl displaces⟩
      simp only [resolveParameters,
        resolveParameter_of_supplies (carries_self _ _) supplied,
        resolveParameter_of_supplies (carries_self _ _) laterSupplied]
      apply induction restDeclared restResolvable
      intro name
      rw [NameTable.find?_insert, NameTable.find?_insert]
      split
      · rename_i same
        exact same ▸ ofFirst
      · exact givesWay name

theorem argumentsFrom_givesWay
    (extended : smaller.ExtendedBy larger) {bound : Instance σ}
    (wellBound : WellBound smaller bound) (name : String) :
    GivesWay smaller larger bound name
      ((argumentsFrom smaller bound).find? name)
      ((argumentsFrom larger bound).find? name) := by
  apply resolveParameters_givesWay extended (fun _ member => member)
    wellBound.resolvable
  intro other
  exact .unchanged _

/-- The arguments of a list of instances, one table each, differ by nothing but
defaults that give way. -/
def GiveWay (smaller larger : Arguments) (instances : List (Instance σ))
    (before after : List Arguments) : Prop :=
  after.length = before.length ∧
    ∀ (position : Nat) bound, instances[position]? = some bound →
      ∃ old new : Arguments, before[position]? = some old ∧
        after[position]? = some new ∧
        ∀ name, GivesWay smaller larger bound name (old.find? name)
          (new.find? name)

theorem resolveAll_conflict_iff
    (instances : List (Instance σ)) (left right : Arguments)
    (name : String) (first second : ParameterType) :
    resolveAll instances left = .error (.conflictingInput name first second) ↔
      resolveAll instances right =
        .error (.conflictingInput name first second) := by
  by_cases agreeing : Agreeing instances
  · rw [resolveAll_of_agreeing agreeing, resolveAll_of_agreeing agreeing]
    constructor
    · split <;> simp
    · split <;> simp
  · obtain ⟨_, _, _, conflict⟩ := resolveAll_of_not_agreeing agreeing
    rw [conflict left, conflict right]

theorem exists_resolved_of_extendedBy
    (extended : smaller.ExtendedBy larger) {instances : List (Instance σ)}
    {before : List Arguments}
    (resolved : resolveAll instances smaller = .ok before) :
    ∃ after, resolveAll instances larger = .ok after ∧
      GiveWay smaller larger instances before after := by
  obtain ⟨agreeing, wellBound, rfl⟩ := resolveAll_eq_ok_iff.mp resolved
  refine ⟨instances.map (argumentsFrom larger), ?success, by simp, ?giveWay⟩
  case success =>
    refine resolveAll_eq_ok_iff.mpr ⟨agreeing, ?_, rfl⟩
    intro bound member
    exact (wellBound bound member).of_extendedBy extended
  case giveWay =>
    intro position bound found
    refine ⟨argumentsFrom smaller bound, argumentsFrom larger bound,
      by simp [found], by simp [found], ?_⟩
    exact argumentsFrom_givesWay extended
      (wellBound bound (List.mem_of_getElem? found))

theorem exists_reports_of_extendedBy
    (extended : smaller.ExtendedBy larger) {instances : List (Instance σ)}
    {reports : List BindingReport}
    (failed : resolveAll instances larger = .error (.unresolved reports)) :
    ∃ more, resolveAll instances smaller = .error (.unresolved more) ∧
      ∀ report ∈ reports, ∃ fuller ∈ more, CoveredBy report fuller := by
  obtain ⟨agreeing, notWellBound, rfl⟩ :=
    resolveAll_eq_unresolved_iff.mp failed
  refine ⟨faults smaller 0 instances, ?_,
    fun _ => exists_fuller_report extended⟩
  refine resolveAll_eq_unresolved_iff.mpr ⟨agreeing, ?_, rfl⟩
  intro wellBound
  apply notWellBound
  intro bound member
  exact (wellBound bound member).of_extendedBy extended

theorem unexpectedAt_resolveAll
    (left right : Arguments) (position : Nat)
    (instances : List (Instance σ)) :
    unexpectedAt position (reportsOf (resolveAll instances left)) =
      unexpectedAt position (reportsOf (resolveAll instances right)) := by
  by_cases agreeing : Agreeing instances
  · rw [reportsOf_resolveAll agreeing, reportsOf_resolveAll agreeing]
    exact unexpectedAt_faults left right position 0 instances
  · obtain ⟨_, _, _, conflict⟩ := resolveAll_of_not_agreeing agreeing
    rw [conflict left, conflict right]

/-- Resolution is monotone in the globals.  With more of them there is the same
conflict or none, a success stays one and differs at most where a default gives
way to a new global, and a failure tells of no more missing parameters than
before.  The unexpected names of every instance are the same, and globals that
no instance consults have no effect. -/
theorem resolveAll_monotone
    (instances : List (Instance σ)) (extended : smaller.ExtendedBy larger) :
    (∀ name first second,
      resolveAll instances smaller =
          .error (.conflictingInput name first second) ↔
        resolveAll instances larger =
          .error (.conflictingInput name first second)) ∧
      (∀ before, resolveAll instances smaller = .ok before →
        ∃ after, resolveAll instances larger = .ok after ∧
          GiveWay smaller larger instances before after) ∧
      (∀ reports, resolveAll instances larger = .error (.unresolved reports) →
        ∃ more, resolveAll instances smaller = .error (.unresolved more) ∧
          ∀ report ∈ reports, ∃ fuller ∈ more, CoveredBy report fuller) ∧
      (∀ position,
        unexpectedAt position (reportsOf (resolveAll instances smaller)) =
          unexpectedAt position (reportsOf (resolveAll instances larger))) ∧
      ∀ other : Arguments,
        (∀ name, (∃ bound ∈ instances, bound.Consults name) →
          other.find? name = larger.find? name) →
        resolveAll instances other = resolveAll instances larger := by
  refine ⟨resolveAll_conflict_iff instances smaller larger,
    fun _ => exists_resolved_of_extendedBy extended,
    fun _ => exists_reports_of_extendedBy extended,
    fun position => unexpectedAt_resolveAll smaller larger position instances,
    ?_⟩
  intro other same
  apply resolveAll_congr
  intro bound member name consulted
  exact same name ⟨bound, member, consulted⟩

/-- The one global that the check of a model against a threshold needs. -/
def candidateGlobals : Arguments :=
  NameTable.empty.insert "candidate" (.json (.string "first"))

/-- A threshold, and a global of the name of the wired parameter. -/
def strictGlobals : Arguments :=
  (candidateGlobals.insert "model" (.json (.string "second"))).insert
    "threshold" (.json (.bool true))

theorem candidateGlobals_extendedBy :
    candidateGlobals.ExtendedBy strictGlobals := by
  intro name value found
  have known : "candidate" = name ∧ .json (.string "first") = value := by
    simpa [candidateGlobals] using found
  obtain ⟨rfl, rfl⟩ := known
  rfl

/-- The threshold takes the place of the default; the model keeps the value of
its placeholder. -/
theorem resolveAll_threshold_monotone :
    candidateGlobals.ExtendedBy strictGlobals ∧
      ∃ before after,
        resolveAll [thresholdInstance] candidateGlobals = .ok [before] ∧
          resolveAll [thresholdInstance] strictGlobals = .ok [after] ∧
          before.find? "threshold" = some (.json .null) ∧
          after.find? "threshold" = some (.json (.bool true)) ∧
          before.find? "model" = after.find? "model" := by
  have resolved : resolveAll [thresholdInstance] candidateGlobals =
      .ok [argumentsFrom candidateGlobals thresholdInstance] := rfl
  have strictResolved : resolveAll [thresholdInstance] strictGlobals =
      .ok [argumentsFrom strictGlobals thresholdInstance] := rfl
  obtain ⟨_, succeeds, _⟩ :=
    resolveAll_monotone [thresholdInstance] candidateGlobals_extendedBy
  obtain ⟨after, alsoResolved, _, giveWay⟩ := succeeds _ resolved
  obtain rfl : [argumentsFrom strictGlobals thresholdInstance] = after :=
    Except.ok.inj (strictResolved.symm.trans alsoResolved)
  obtain ⟨old, new, isOld, isNew, values⟩ := giveWay 0 thresholdInstance rfl
  obtain rfl : argumentsFrom candidateGlobals thresholdInstance = old :=
    Option.some.inj isOld
  obtain rfl : argumentsFrom strictGlobals thresholdInstance = new :=
    Option.some.inj isNew
  refine ⟨candidateGlobals_extendedBy, _, _, resolved, strictResolved, rfl, rfl,
    ?_⟩
  exact (values "model").eq_of_bound rfl

end Resolution

end Assay
