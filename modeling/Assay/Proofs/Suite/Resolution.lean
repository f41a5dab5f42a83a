import Assay.Proofs.Suite.Inputs
import Mathlib.Data.List.Forall2

/-!
# Where the values of parameters come from

`Supplies` tells the source of a value without the tables that resolution
builds on its way.  An instance is well bound when every parameter has a source
and every bound name is declared; resolution completes exactly the instances
that are well bound, and says of the others everything that is wrong.
-/

namespace Assay

variable {σ : Type}

/-- The source of the value of a parameter: its binding, or else the global of
its name, or else its default.  A parameter that is wired to a placeholder has
no other source than the global of the placeholder. -/
inductive Supplies (globals : Arguments) (bindings : NameTable Binding)
    (parameter : Parameter) : ArgumentValue → Prop where
  | bound {value : ArgumentValue} :
      bindings.find? parameter.name = some (.value value) →
      Supplies globals bindings parameter value
  | shared {placeholder : SuiteInput} {value : ArgumentValue} :
      bindings.find? parameter.name = some (.input placeholder) →
      globals.find? placeholder.name = some value →
      Supplies globals bindings parameter value
  | global {value : ArgumentValue} :
      bindings.find? parameter.name = none →
      globals.find? parameter.name = some value →
      Supplies globals bindings parameter value
  | default {content : Json.Value} :
      bindings.find? parameter.name = none →
      globals.find? parameter.name = none →
      parameter.default = some content →
      Supplies globals bindings parameter (.json content)

def Resolvable (globals : Arguments) (bindings : NameTable Binding)
    (parameter : Parameter) : Prop :=
  ∃ value, Supplies globals bindings parameter value

/-- No parameter has two values. -/
theorem Supplies.unique
    {globals : Arguments} {bindings : NameTable Binding}
    {parameter : Parameter} {left right : ArgumentValue}
    (leftSupplied : Supplies globals bindings parameter left)
    (rightSupplied : Supplies globals bindings parameter right) :
    left = right := by
  cases leftSupplied <;> cases rightSupplied <;> simp_all

/-- The placeholder that a name is wired to. -/
def wiredName? (bindings : NameTable Binding) (name : String) : Option String :=
  match bindings.find? name with
  | some (.input placeholder) => some placeholder.name
  | _ => none

theorem wiredName?_eq_some_iff
    (bindings : NameTable Binding) (name wired : String) :
    wiredName? bindings name = some wired ↔
      ∃ placeholder, bindings.find? name = some (.input placeholder) ∧
        placeholder.name = wired := by
  unfold wiredName?
  split
  · rename_i placeholder found
    simp [found]
  · rename_i notWired
    simp only [reduceCtorEq, false_iff, not_exists, not_and]
    intro placeholder found
    exact absurd found (notWired placeholder)

/-- What a report says of a parameter without a value. -/
def missingEntry (bindings : NameTable Binding) (parameter : Parameter) :
    MissingParameter :=
  ⟨parameter.name, parameter.type, wiredName? bindings parameter.name⟩

namespace Resolution

/-- The supplied values of the placeholders that are bound are their globals. -/
def Carries (globals supplied : Arguments) (bindings : NameTable Binding) :
    Prop :=
  ∀ name placeholder, bindings.find? name = some (.input placeholder) →
    supplied.find? placeholder.name = globals.find? placeholder.name

theorem carries_self (globals : Arguments) (bindings : NameTable Binding) :
    Carries globals globals bindings := by
  intro name placeholder _
  rfl

theorem carries_suppliedInputs
    {instances : List (Instance σ)} {inputs : List SuiteInput}
    (collected : collectInputs instances = .ok inputs) (globals : Arguments) :
    ∀ bound ∈ instances,
      Carries globals (suppliedInputs inputs globals) bound.bindings := by
  intro bound member name placeholder found
  exact find?_suppliedInputs_of_wired collected ⟨bound, member, name, found⟩
    globals

/-! ## One parameter -/

theorem resolveParameter_of_supplies
    {globals supplied : Arguments} {bindings : NameTable Binding}
    (carries : Carries globals supplied bindings)
    {parameter : Parameter} {value : ArgumentValue}
    (supplies : Supplies globals bindings parameter value) :
    resolveParameter bindings globals supplied parameter = .ok value := by
  cases supplies with
  | bound found => simp [resolveParameter, found]
  | @shared placeholder _ found given =>
      have carried := carries parameter.name placeholder found
      simp [resolveParameter, found, carried, given]
  | global unbound given => simp [resolveParameter, unbound, given]
  | default unbound absent optional =>
      simp [resolveParameter, unbound, absent, optional]

theorem resolveParameter_of_not_resolvable
    {globals supplied : Arguments} {bindings : NameTable Binding}
    (carries : Carries globals supplied bindings)
    {parameter : Parameter}
    (unresolvable : ¬Resolvable globals bindings parameter) :
    resolveParameter bindings globals supplied parameter =
      .error (missingEntry bindings parameter) := by
  cases found : bindings.find? parameter.name with
  | some binding =>
      cases binding with
      | value value => exact absurd ⟨value, .bound found⟩ unresolvable
      | input placeholder =>
          cases given : globals.find? placeholder.name with
          | some value => exact absurd ⟨value, .shared found given⟩ unresolvable
          | none =>
              have carried := carries parameter.name placeholder found
              simp [resolveParameter, missingEntry, wiredName?, found, carried,
                given]
  | none =>
      cases given : globals.find? parameter.name with
      | some value => exact absurd ⟨value, .global found given⟩ unresolvable
      | none =>
          cases optional : parameter.default with
          | some content =>
              exact absurd ⟨.json content, .default found given optional⟩
                unresolvable
          | none =>
              simp [resolveParameter, missingEntry, wiredName?, found, given,
                optional]

theorem resolveParameter_isOk_iff
    (globals : Arguments) (bindings : NameTable Binding)
    (parameter : Parameter) :
    (resolveParameter bindings globals globals parameter).isOk = true ↔
      Resolvable globals bindings parameter := by
  by_cases resolvable : Resolvable globals bindings parameter
  · obtain ⟨value, supplies⟩ := resolvable
    rw [resolveParameter_of_supplies (carries_self globals bindings) supplies]
    exact iff_of_true rfl ⟨value, supplies⟩
  · rw [resolveParameter_of_not_resolvable (carries_self globals bindings)
      resolvable]
    exact iff_of_false Bool.false_ne_true resolvable

end Resolution

instance (globals : Arguments) (bindings : NameTable Binding)
    (parameter : Parameter) :
    Decidable (Resolvable globals bindings parameter) :=
  decidable_of_iff _
    (Resolution.resolveParameter_isOk_iff globals bindings parameter)

namespace Resolution

/-! ## The parameters of an instance -/

theorem resolveParameters_missing
    {globals supplied : Arguments} {bindings : NameTable Binding}
    (carries : Carries globals supplied bindings)
    (parameters : List Parameter) (resolved : Arguments) :
    (resolveParameters bindings globals supplied parameters resolved).2 =
      (parameters.filter fun parameter =>
        ¬Resolvable globals bindings parameter).map (missingEntry bindings) := by
  induction parameters generalizing resolved with
  | nil => rfl
  | cons parameter rest induction =>
      by_cases resolvable : Resolvable globals bindings parameter
      · obtain ⟨value, supplies⟩ := id resolvable
        simp [resolveParameters, resolveParameter_of_supplies carries supplies,
          induction, resolvable]
      · simp [resolveParameters,
          resolveParameter_of_not_resolvable carries resolvable, induction,
          resolvable]

theorem find?_resolveParameters_of_not_mem
    (bindings : NameTable Binding) (globals supplied : Arguments)
    {parameters : List Parameter} {name : String}
    (absent : name ∉ parameters.map (·.name)) (resolved : Arguments) :
    (resolveParameters bindings globals supplied parameters resolved).1.find?
      name = resolved.find? name := by
  induction parameters generalizing resolved with
  | nil => rfl
  | cons parameter rest induction =>
      have different : parameter.name ≠ name := by
        intro same
        exact absent (by simp [same])
      have restAbsent : name ∉ rest.map (·.name) := by
        intro member
        exact absent (List.mem_cons_of_mem _ member)
      cases outcome :
          resolveParameter bindings globals supplied parameter with
      | ok value =>
          simp only [resolveParameters, outcome]
          simp [induction restAbsent, different]
      | error missing =>
          simp only [resolveParameters, outcome]
          exact induction restAbsent resolved

/-- With distinct names, no later parameter replaces the value of an earlier
one. -/
theorem find?_resolveParameters_of_supplies
    {globals supplied : Arguments} {bindings : NameTable Binding}
    (carries : Carries globals supplied bindings)
    {parameters : List Parameter}
    (distinct : (parameters.map (·.name)).Nodup)
    {parameter : Parameter} (member : parameter ∈ parameters)
    {value : ArgumentValue}
    (supplies : Supplies globals bindings parameter value)
    (resolved : Arguments) :
    (resolveParameters bindings globals supplied parameters resolved).1.find?
      parameter.name = some value := by
  induction parameters generalizing resolved with
  | nil => cases member
  | cons first rest induction =>
      obtain ⟨firstAbsent, restDistinct⟩ := List.nodup_cons.mp distinct
      rcases List.mem_cons.mp member with rfl | later
      · simp only [resolveParameters,
          resolveParameter_of_supplies carries supplies]
        simp [find?_resolveParameters_of_not_mem bindings globals supplied
          firstAbsent]
      · cases outcome : resolveParameter bindings globals supplied first with
        | ok other =>
            simp only [resolveParameters, outcome]
            exact induction restDistinct later _
        | error missing =>
            simp only [resolveParameters, outcome]
            exact induction restDistinct later _

end Resolution

/-! ## One instance -/

/-- Every bound name is declared and every parameter has a value. -/
structure WellBound (globals : Arguments) (bound : Instance σ) : Prop where
  declared : ∀ name binding, bound.bindings.find? name = some binding →
    ∃ parameter ∈ bound.metadata.parameters, parameter.name = name
  resolvable : ∀ parameter ∈ bound.metadata.parameters,
    Resolvable globals bound.bindings parameter

/-- The arguments have exactly the declared names, each with the value that its
parameter is supplied with and no other. -/
structure Completes (globals : Arguments) (bound : Instance σ)
    (arguments : Arguments) : Prop where
  names : ∀ name, name ∈ arguments.names ↔
    ∃ parameter ∈ bound.metadata.parameters, parameter.name = name
  values : ∀ parameter ∈ bound.metadata.parameters, ∀ value,
    arguments.find? parameter.name = some value ↔
      Supplies globals bound.bindings parameter value

/-- Everything wrong with the bindings of an instance at a position. -/
def faultReport (globals : Arguments) (position : Nat) (bound : Instance σ) :
    BindingReport where
  position := position
  identity := bound.identity
  name := bound.metadata.displayName
  missing :=
    (bound.metadata.parameters.filter fun parameter =>
      ¬Resolvable globals bound.bindings parameter).map
        (missingEntry bound.bindings)
  unexpected := Resolution.unexpectedNames bound

namespace Resolution

@[simp] theorem mem_unexpectedNames_iff (bound : Instance σ) (name : String) :
    name ∈ unexpectedNames bound ↔
      (∃ binding, bound.bindings.find? name = some binding) ∧
        ¬∃ parameter ∈ bound.metadata.parameters, parameter.name = name := by
  simp only [unexpectedNames, List.mem_filter, NameTable.mem_names_iff,
    Metadata.parameter?, Option.isNone_iff_eq_none, List.find?_eq_none,
    beq_iff_eq, not_exists, not_and]

theorem unexpectedNames_ascending (bound : Instance σ) :
    (unexpectedNames bound).Pairwise (· < ·) :=
  (NameTable.names_ascending bound.bindings).filter _

@[simp] theorem faultReport_isEmpty_iff
    (globals : Arguments) (position : Nat) (bound : Instance σ) :
    (faultReport globals position bound).isEmpty = true ↔
      WellBound globals bound := by
  have missingNone :
      (faultReport globals position bound).missing = [] ↔
        ∀ parameter ∈ bound.metadata.parameters,
          Resolvable globals bound.bindings parameter := by
    simp [faultReport]
  have unexpectedNone :
      (faultReport globals position bound).unexpected = [] ↔
        ∀ name binding, bound.bindings.find? name = some binding →
          ∃ parameter ∈ bound.metadata.parameters, parameter.name = name := by
    simp only [faultReport, List.eq_nil_iff_forall_not_mem,
      mem_unexpectedNames_iff, not_and, not_not, forall_exists_index]
  simp only [BindingReport.isEmpty, Bool.and_eq_true, List.isEmpty_iff,
    missingNone, unexpectedNone]
  constructor
  · intro ⟨resolvable, declared⟩
    exact ⟨declared, resolvable⟩
  · intro wellBound
    exact ⟨wellBound.resolvable, wellBound.declared⟩

end Resolution

instance (globals : Arguments) (bound : Instance σ) :
    Decidable (WellBound globals bound) :=
  decidable_of_iff _ (Resolution.faultReport_isEmpty_iff globals 0 bound)

namespace Resolution

theorem resolveInstance_eq
    {globals supplied : Arguments} {bound : Instance σ}
    (carries : Carries globals supplied bound.bindings) (position : Nat) :
    resolveInstance position bound globals supplied =
      if WellBound globals bound then
        .ok (resolveParameters bound.bindings globals supplied
          bound.metadata.parameters .empty).1
      else .error (faultReport globals position bound) := by
  have sameReport :
      (⟨position, bound.identity, bound.metadata.displayName,
        (resolveParameters bound.bindings globals supplied
          bound.metadata.parameters .empty).2,
        unexpectedNames bound⟩ : BindingReport) =
        faultReport globals position bound := by
    rw [resolveParameters_missing carries]
    rfl
  unfold resolveInstance
  simp only [sameReport, faultReport_isEmpty_iff]

theorem completes_of_wellBound
    {globals supplied : Arguments} {bound : Instance σ}
    (carries : Carries globals supplied bound.bindings)
    (distinct : (bound.metadata.parameters.map (·.name)).Nodup)
    (wellBound : WellBound globals bound) :
    Completes globals bound
      (resolveParameters bound.bindings globals supplied
        bound.metadata.parameters .empty).1 := by
  have found {parameter : Parameter}
      (member : parameter ∈ bound.metadata.parameters) {value : ArgumentValue}
      (supplies : Supplies globals bound.bindings parameter value) :
      (resolveParameters bound.bindings globals supplied
        bound.metadata.parameters .empty).1.find? parameter.name =
          some value :=
    find?_resolveParameters_of_supplies carries distinct member supplies .empty
  constructor
  · intro name
    rw [NameTable.mem_names_iff]
    constructor
    · intro ⟨value, present⟩
      by_cases declared : name ∈ bound.metadata.parameters.map (·.name)
      · exact List.mem_map.mp declared
      · simp [find?_resolveParameters_of_not_mem _ _ _ declared] at present
    · rintro ⟨parameter, member, rfl⟩
      obtain ⟨value, supplies⟩ := wellBound.resolvable parameter member
      exact ⟨value, found member supplies⟩
  · intro parameter member value
    constructor
    · intro present
      obtain ⟨other, supplies⟩ := wellBound.resolvable parameter member
      obtain rfl : other = value :=
        Option.some.inj ((found member supplies).symm.trans present)
      exact supplies
    · exact found member

end Resolution

end Assay
