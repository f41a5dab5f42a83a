import Assay.Declaration
import Assay.Proofs.Text.Blank
import Assay.Proofs.Text.Identifier

/-!
# Validation of declarations

Everything that can be wrong with a declaration has a place in one order: a blank
name, a blank module, a name and a module of the wrong form, and then the faults
of the parameters from left to right.  A declaration is accepted exactly if
nothing is wrong with it, and refused for what comes first.
-/

namespace Assay

namespace Text

theorem trim_ne_empty_of_identifier
    {text : String} (identifier : text.toList ∈ identifiers) : trim text ≠ "" := by
  intro blank
  obtain ⟨character, inside, notBlank⟩ := exists_not_blank_of_identifier identifier
  simp [(trim_eq_empty_iff text).mp blank character inside] at notBlank

theorem trim_ne_empty_of_dotted
    {text : String} (dotted : text.toList ∈ dottedIdentifiers) : trim text ≠ "" := by
  intro blank
  obtain ⟨character, inside, notBlank⟩ := exists_not_blank_of_dotted dotted
  simp [(trim_eq_empty_iff text).mp blank character inside] at notBlank

end Text

/-! ## Faults of parameters -/

/-- The values that can be the default of a parameter of a type. -/
inductive ParameterType.Fits : ParameterType → Json.Value → Prop where
  | null {type : ParameterType} : Fits type .null
  | integer {value : Int} {fits : Json.fitsInteger value} :
      Fits .int (.number (.integer value fits))
  | number {value : Json.Number} : Fits .float (.number value)
  | text {value : String} : Fits .str (.string value)
  | flag {value : Bool} : Fits .bool (.bool value)
  | other {name : String} {value : Json.Value} : Fits (.object name) value

@[simp] theorem ParameterType.acceptsDefault_iff (type : ParameterType) (value : Json.Value) :
    type.acceptsDefault value = true ↔ type.Fits value := by
  constructor
  · intro accepted
    unfold acceptsDefault at accepted
    split at accepted
    · exact .null
    · exact .integer
    · exact .number
    · exact .text
    · exact .flag
    · exact .other
    · contradiction
  · intro fits
    cases fits with
    | null => cases type <;> rfl
    | integer => rfl
    | @number number => cases number <;> rfl
    | text => rfl
    | flag => rfl
    | @other name value =>
        cases value with
        | number number => cases number <;> rfl
        | _ => rfl

instance (type : ParameterType) (value : Json.Value) : Decidable (type.Fits value) :=
  decidable_of_iff _ (type.acceptsDefault_iff value)

/-- What can be wrong with a parameter. -/
inductive ParameterFault where
  | form
  | duplicate
  | default

namespace ParameterFault

/-- The order in which the faults of one parameter are looked for. -/
def rank : ParameterFault → Nat
  | .form => 0
  | .duplicate => 1
  | .default => 2

def error (parameter : Parameter) : ParameterFault → DefinitionError
  | .form => .invalidParameterName parameter.name
  | .duplicate => .duplicateParameter parameter.name
  | .default => .defaultTypeMismatch parameter.name parameter.type

/-- Whether a parameter that follows those with the given names has a fault. -/
def Affects (earlier : List String) (parameter : Parameter) : ParameterFault → Prop
  | .form => parameter.name.toList ∉ Text.identifiers
  | .duplicate => parameter.name ∈ earlier
  | .default => ∃ default, parameter.default = some default ∧ ¬parameter.type.Fits default

theorem rank_lt (fault : ParameterFault) : fault.rank < 3 := by
  cases fault <;> decide

theorem rank_injective {left right : ParameterFault} (same : left.rank = right.rank) :
    left = right := by
  cases left <;> cases right <;> first | rfl | cases same

/-- Only which names came earlier matters, not their order. -/
theorem affects_congr
    {left right : List String} (same : ∀ name, name ∈ left ↔ name ∈ right)
    (parameter : Parameter) (fault : ParameterFault) :
    fault.Affects left parameter ↔ fault.Affects right parameter := by
  cases fault with
  | form => rfl
  | duplicate => exact same parameter.name
  | default => rfl

end ParameterFault

namespace Declaration

variable {earlier : List String} {parameter : Parameter} {parameters : List Parameter}
  {position : Nat} {fault : ParameterFault} {error : DefinitionError}

theorem checkParameter_eq_ok
    (checked : checkParameter earlier parameter = .ok ()) :
    ∀ fault : ParameterFault, ¬fault.Affects earlier parameter := by
  simp only [checkParameter, Bool.not_eq_true', ← Bool.not_eq_true, Text.isIdentifier_iff,
    List.contains_iff_mem, ParameterType.acceptsDefault_iff] at checked
  split at checked
  · contradiction
  rename_i wellFormed
  split at checked
  · contradiction
  rename_i fresh
  intro fault affected
  cases fault with
  | form => exact wellFormed affected
  | duplicate => exact fresh affected
  | default =>
      obtain ⟨default, optional, unfit⟩ := affected
      simp [optional, unfit] at checked

theorem checkParameter_eq_error
    (failed : checkParameter earlier parameter = .error error) :
    ∃ fault : ParameterFault, fault.Affects earlier parameter ∧
      error = fault.error parameter ∧
      ∀ other : ParameterFault,
        other.Affects earlier parameter → fault.rank ≤ other.rank := by
  simp only [checkParameter, Bool.not_eq_true', ← Bool.not_eq_true, Text.isIdentifier_iff,
    List.contains_iff_mem, ParameterType.acceptsDefault_iff] at failed
  split at failed
  · rename_i malformed
    exact ⟨.form, malformed, (Except.error.inj failed).symm, fun _ _ => Nat.zero_le _⟩
  rename_i wellFormed
  split at failed
  · rename_i repeated
    refine ⟨.duplicate, repeated, (Except.error.inj failed).symm, ?_⟩
    intro other affected
    cases other with
    | form => exact absurd affected wellFormed
    | duplicate => exact Nat.le_refl _
    | default => decide
  rename_i fresh
  split at failed
  · contradiction
  rename_i default optional
  split at failed
  · contradiction
  rename_i unfit
  refine ⟨.default, ⟨default, optional, unfit⟩, (Except.error.inj failed).symm, ?_⟩
  intro other affected
  cases other with
  | form => exact absurd affected wellFormed
  | duplicate => exact absurd affected fresh
  | default => exact Nat.le_refl _

/-- The fault of the parameter at a position, after the given names and those of
the parameters before it, and the error that tells of it. -/
def FaultAt (earlier : List String) (parameters : List Parameter) (position : Nat)
    (fault : ParameterFault) (error : DefinitionError) : Prop :=
  ∃ parameter, parameters[position]? = some parameter ∧
    fault.Affects (earlier ++ (parameters.take position).map (·.name)) parameter ∧
    error = fault.error parameter

@[simp] theorem faultAt_zero :
    FaultAt earlier (parameter :: parameters) 0 fault error ↔
      fault.Affects earlier parameter ∧ error = fault.error parameter := by
  simp [FaultAt]

@[simp] theorem faultAt_succ :
    FaultAt earlier (parameter :: parameters) (position + 1) fault error ↔
      FaultAt (parameter.name :: earlier) parameters position fault error := by
  have same : ∀ name,
      name ∈ earlier ++ ((parameter :: parameters).take (position + 1)).map (·.name) ↔
        name ∈ parameter.name :: earlier ++ (parameters.take position).map (·.name) := by
    intro name
    simp only [List.take_succ_cons, List.map_cons, List.mem_append, List.mem_cons]
    exact or_left_comm.trans or_assoc.symm
  simp only [FaultAt, List.getElem?_cons_succ, ParameterFault.affects_congr same]

theorem FaultAt.unique
    {left right : DefinitionError}
    (leftFault : FaultAt earlier parameters position fault left)
    (rightFault : FaultAt earlier parameters position fault right) : left = right := by
  obtain ⟨first, firstFound, -, rfl⟩ := leftFault
  obtain ⟨second, secondFound, -, rfl⟩ := rightFault
  rw [Option.some.inj (firstFound.symm.trans secondFound)]

theorem checkParameters_eq_ok
    (checked : checkParameters earlier parameters = .ok ()) :
    ∀ position fault error, ¬FaultAt earlier parameters position fault error := by
  induction parameters generalizing earlier with
  | nil =>
      rintro position fault error ⟨parameter, found, -⟩
      contradiction
  | cons parameter rest induction =>
      cases outcome : checkParameter earlier parameter with
      | error problem => simp [checkParameters, outcome, bind, Except.bind] at checked
      | ok _ =>
          have restChecked : checkParameters (parameter.name :: earlier) rest = .ok () := by
            simpa [checkParameters, outcome, bind, Except.bind] using checked
          intro position fault error
          cases position with
          | zero =>
              rw [faultAt_zero, not_and]
              intro affected
              exact absurd affected (checkParameter_eq_ok outcome fault)
          | succ position =>
              rw [faultAt_succ]
              exact induction restChecked position fault error

/-- The first faulty parameter is reported, by its first fault. -/
theorem checkParameters_eq_error
    (failed : checkParameters earlier parameters = .error error) :
    ∃ position fault, FaultAt earlier parameters position fault error ∧
      ∀ otherPosition otherFault otherError,
        FaultAt earlier parameters otherPosition otherFault otherError →
          3 * position + fault.rank ≤ 3 * otherPosition + otherFault.rank := by
  induction parameters generalizing earlier with
  | nil => cases failed
  | cons parameter rest induction =>
      cases outcome : checkParameter earlier parameter with
      | error problem =>
          obtain rfl : problem = error := by
            simpa [checkParameters, outcome, bind, Except.bind] using failed
          obtain ⟨fault, affected, told, first⟩ := checkParameter_eq_error outcome
          refine ⟨0, fault, faultAt_zero.mpr ⟨affected, told⟩, ?_⟩
          intro otherPosition otherFault otherError otherFaulty
          cases otherPosition with
          | zero =>
              have later := first otherFault (faultAt_zero.mp otherFaulty).1
              omega
          | succ otherPosition =>
              have small := fault.rank_lt
              omega
      | ok _ =>
          have restFailed :
              checkParameters (parameter.name :: earlier) rest = .error error := by
            simpa [checkParameters, outcome, bind, Except.bind] using failed
          obtain ⟨position, fault, faulty, first⟩ := induction restFailed
          refine ⟨position + 1, fault, faultAt_succ.mpr faulty, ?_⟩
          intro otherPosition otherFault otherError otherFaulty
          cases otherPosition with
          | zero =>
              have affected := (faultAt_zero.mp otherFaulty).1
              exact absurd affected (checkParameter_eq_ok outcome otherFault)
          | succ otherPosition =>
              have later := first _ _ _ (faultAt_succ.mp otherFaulty)
              omega

end Declaration

/-- No item is among those before it. -/
private theorem nodup_iff_not_mem_take {α : Type} {items : List α} :
    items.Nodup ↔
      ∀ position item, items[position]? = some item → item ∉ items.take position := by
  simp only [List.Nodup, List.pairwise_iff_getElem, List.mem_take_iff_getElem,
    List.getElem?_eq_some_iff, not_exists]
  constructor
  · rintro distinct position item ⟨bound, rfl⟩ other otherBound same
    exact distinct other position (by omega) bound (by omega) same
  · intro fresh left right leftBound rightBound before same
    exact fresh right _ ⟨rightBound, rfl⟩ left (by omega) same

/-! ## Violations of declarations -/

/-- What can be wrong with a declaration. -/
inductive Violation where
  | blankName
  | blankModule
  | nameForm
  | moduleForm
  | parameter (position : Nat) (fault : ParameterFault)

/-- The order of violations. -/
def Violation.rank : Violation → Nat
  | .blankName => 0
  | .blankModule => 1
  | .nameForm => 2
  | .moduleForm => 3
  | .parameter position fault => 4 + (3 * position + fault.rank)

theorem Violation.rank_injective
    {left right : Violation} (same : left.rank = right.rank) : left = right := by
  cases left with
  | parameter position fault =>
      cases right with
      | parameter otherPosition otherFault =>
          have small := fault.rank_lt
          have otherSmall := otherFault.rank_lt
          simp only [rank] at same
          obtain rfl : position = otherPosition := by omega
          obtain rfl : fault = otherFault := ParameterFault.rank_injective (by omega)
          rfl
      | _ => simp only [rank] at same; omega
  | _ =>
      cases right with
      | parameter otherPosition otherFault => simp only [rank] at same; omega
      | _ => first | rfl | cases same

namespace Declaration

variable {declaration : Declaration} {violation : Violation} {error : DefinitionError}

/-- What is wrong with a declaration, and the error that tells of it. -/
inductive Violates (declaration : Declaration) : Violation → DefinitionError → Prop where
  | blankName (blank : Text.trim declaration.name = "") :
      Violates declaration .blankName .emptyName
  | blankModule (blank : Text.trim declaration.moduleName = "") :
      Violates declaration .blankModule .emptyModule
  | nameForm (malformed : declaration.name.toList ∉ Text.identifiers) :
      Violates declaration .nameForm (.invalidName declaration.name)
  | moduleForm (malformed : declaration.moduleName.toList ∉ Text.dottedIdentifiers) :
      Violates declaration .moduleForm (.invalidModule declaration.moduleName)
  | parameter {position : Nat} {fault : ParameterFault} {error : DefinitionError}
      (faulty : FaultAt [] declaration.parameters position fault error) :
      Violates declaration (.parameter position fault) error

theorem Violates.unique
    {left right : DefinitionError} (leftViolated : declaration.Violates violation left)
    (rightViolated : declaration.Violates violation right) : left = right := by
  cases leftViolated with
  | parameter leftFaulty =>
      cases rightViolated with
      | parameter rightFaulty => exact leftFaulty.unique rightFaulty
  | _ => cases rightViolated; rfl

/-- The violation that no other one comes before. -/
structure ViolatesFirst (declaration : Declaration) (violation : Violation)
    (error : DefinitionError) : Prop where
  violated : declaration.Violates violation error
  least : ∀ other otherError, declaration.Violates other otherError →
    violation.rank ≤ other.rank

theorem ViolatesFirst.unique
    {left right : Violation} {leftError rightError : DefinitionError}
    (leftFirst : declaration.ViolatesFirst left leftError)
    (rightFirst : declaration.ViolatesFirst right rightError) :
    leftError = rightError := by
  have below := leftFirst.least right rightError rightFirst.violated
  have above := rightFirst.least left leftError leftFirst.violated
  obtain rfl : left = right := Violation.rank_injective (Nat.le_antisymm below above)
  exact leftFirst.violated.unique rightFirst.violated

/-- A declaration whose names and defaults are what they have to be. -/
structure WellFormed (declaration : Declaration) : Prop where
  name : declaration.name.toList ∈ Text.identifiers
  moduleName : declaration.moduleName.toList ∈ Text.dottedIdentifiers
  parameterNames : ∀ parameter ∈ declaration.parameters,
    parameter.name.toList ∈ Text.identifiers
  distinct : (declaration.parameters.map (·.name)).Nodup
  defaults : ∀ parameter ∈ declaration.parameters, ∀ default,
    parameter.default = some default → parameter.type.Fits default

/-! ## What validation answers -/

theorem WellFormed.not_violates
    (wellFormed : declaration.WellFormed) : ¬declaration.Violates violation error := by
  intro violated
  cases violated with
  | blankName blank => exact Text.trim_ne_empty_of_identifier wellFormed.name blank
  | blankModule blank => exact Text.trim_ne_empty_of_dotted wellFormed.moduleName blank
  | nameForm malformed => exact malformed wellFormed.name
  | moduleForm malformed => exact malformed wellFormed.moduleName
  | @parameter position fault _ faulty =>
      obtain ⟨parameter, found, affected, -⟩ := faulty
      have declared := List.mem_of_getElem? found
      cases fault with
      | form => exact affected (wellFormed.parameterNames parameter declared)
      | duplicate =>
          rw [ParameterFault.Affects, List.nil_append, List.map_take] at affected
          have named : (declaration.parameters.map (·.name))[position]? = some parameter.name := by
            rw [List.getElem?_map, found, Option.map_some]
          exact nodup_iff_not_mem_take.mp wellFormed.distinct position _ named affected
      | default =>
          obtain ⟨default, optional, unfit⟩ := affected
          exact unfit (wellFormed.defaults parameter declared default optional)

theorem wellFormed_of_faultless
    (name : declaration.name.toList ∈ Text.identifiers)
    (moduleName : declaration.moduleName.toList ∈ Text.dottedIdentifiers)
    (faultless : ∀ position fault error,
      ¬FaultAt [] declaration.parameters position fault error) :
    declaration.WellFormed := by
  have unaffected : ∀ position parameter, declaration.parameters[position]? = some parameter →
      ∀ fault : ParameterFault,
        ¬fault.Affects ((declaration.parameters.take position).map (·.name)) parameter := by
    intro position parameter found fault affected
    exact faultless _ _ _ ⟨parameter, found, affected, rfl⟩
  refine ⟨name, moduleName, ?_, ?_, ?_⟩
  · intro parameter declared
    obtain ⟨position, found⟩ := List.getElem?_of_mem declared
    by_contra malformed
    exact unaffected position parameter found .form malformed
  · rw [nodup_iff_not_mem_take]
    intro position name named
    rw [List.getElem?_map] at named
    obtain ⟨parameter, found, rfl⟩ := Option.map_eq_some_iff.mp named
    rw [← List.map_take]
    exact unaffected position parameter found .duplicate
  · intro parameter declared default optional
    obtain ⟨position, found⟩ := List.getElem?_of_mem declared
    by_contra unfit
    exact unaffected position parameter found .default ⟨default, optional, unfit⟩

theorem checkNames_eq_ok (checked : declaration.checkNames = .ok ()) :
    declaration.name.toList ∈ Text.identifiers ∧
      declaration.moduleName.toList ∈ Text.dottedIdentifiers := by
  simp only [checkNames, Text.isIdentifier_iff, Text.isDottedIdentifier_iff, Bool.not_eq_true',
    ← Bool.not_eq_true] at checked
  split at checked
  · contradiction
  split at checked
  · contradiction
  split at checked
  · contradiction
  split at checked
  · contradiction
  rename_i nameForm moduleForm
  exact ⟨not_not.mp nameForm, not_not.mp moduleForm⟩

theorem checkNames_eq_error (failed : declaration.checkNames = .error error) :
    ∃ violation, declaration.ViolatesFirst violation error := by
  simp only [checkNames, Text.isBlankText_iff, Text.isIdentifier_iff,
    Text.isDottedIdentifier_iff, Bool.not_eq_true', ← Bool.not_eq_true] at failed
  split at failed
  · rename_i blank
    obtain rfl := Except.error.inj failed
    exact ⟨.blankName, .blankName blank, fun _ _ _ => Nat.zero_le _⟩
  rename_i nameShown
  split at failed
  · rename_i blank
    obtain rfl := Except.error.inj failed
    refine ⟨.blankModule, .blankModule blank, ?_⟩
    intro other otherError violated
    cases violated with
    | blankName blank => exact absurd blank nameShown
    | _ => simp only [Violation.rank]; omega
  rename_i moduleShown
  split at failed
  · rename_i malformed
    obtain rfl := Except.error.inj failed
    refine ⟨.nameForm, .nameForm malformed, ?_⟩
    intro other otherError violated
    cases violated with
    | blankName blank => exact absurd blank nameShown
    | blankModule blank => exact absurd blank moduleShown
    | _ => simp only [Violation.rank]; omega
  rename_i nameForm
  split at failed
  · rename_i malformed
    obtain rfl := Except.error.inj failed
    refine ⟨.moduleForm, .moduleForm malformed, ?_⟩
    intro other otherError violated
    cases violated with
    | blankName blank => exact absurd blank nameShown
    | blankModule blank => exact absurd blank moduleShown
    | nameForm malformed => exact absurd malformed nameForm
    | _ => simp only [Violation.rank]; omega
  · cases failed

/-- An accepted declaration has nothing wrong with it and is taken as it is. -/
theorem toMetadata_eq_ok
    {metadata : Metadata} (accepted : declaration.toMetadata = .ok metadata) :
    declaration.WellFormed ∧ metadata = declaration.metadata := by
  cases namesChecked : declaration.checkNames with
  | error problem => simp [toMetadata, namesChecked, bind, Except.bind] at accepted
  | ok _ =>
      cases parametersChecked : checkParameters [] declaration.parameters with
      | error problem =>
          simp [toMetadata, namesChecked, parametersChecked, bind, Except.bind] at accepted
      | ok _ =>
          have same : declaration.metadata = metadata := by
            simpa [toMetadata, namesChecked, parametersChecked, bind, Except.bind, pure,
              Except.pure] using accepted
          obtain ⟨name, moduleName⟩ := checkNames_eq_ok namesChecked
          have faultless := checkParameters_eq_ok parametersChecked
          exact ⟨wellFormed_of_faultless name moduleName faultless, same.symm⟩

/-- Only a store gives out versions. -/
theorem toMetadata_unversioned
    {metadata : Metadata} (accepted : declaration.toMetadata = .ok metadata) :
    metadata.version = none := by
  rw [(toMetadata_eq_ok accepted).2]
  rfl

theorem toMetadata_eq_error (failed : declaration.toMetadata = .error error) :
    ∃ violation, declaration.ViolatesFirst violation error := by
  cases namesChecked : declaration.checkNames with
  | error problem =>
      obtain rfl : problem = error := by
        simpa [toMetadata, namesChecked, bind, Except.bind] using failed
      exact checkNames_eq_error namesChecked
  | ok _ =>
      cases parametersChecked : checkParameters [] declaration.parameters with
      | ok _ =>
          simp [toMetadata, namesChecked, parametersChecked, bind, Except.bind, pure,
            Except.pure] at failed
      | error problem =>
          obtain rfl : problem = error := by
            simpa [toMetadata, namesChecked, parametersChecked, bind, Except.bind] using failed
          obtain ⟨name, moduleName⟩ := checkNames_eq_ok namesChecked
          obtain ⟨position, fault, faulty, first⟩ := checkParameters_eq_error parametersChecked
          refine ⟨.parameter position fault, .parameter faulty, ?_⟩
          intro other otherError violated
          cases violated with
          | blankName blank => exact absurd blank (Text.trim_ne_empty_of_identifier name)
          | blankModule blank => exact absurd blank (Text.trim_ne_empty_of_dotted moduleName)
          | nameForm malformed => exact absurd name malformed
          | moduleForm malformed => exact absurd moduleName malformed
          | parameter otherFaulty =>
              exact Nat.add_le_add_left (first _ _ _ otherFaulty) 4

theorem toMetadata_of_wellFormed (wellFormed : declaration.WellFormed) :
    declaration.toMetadata = .ok declaration.metadata := by
  cases outcome : declaration.toMetadata with
  | ok metadata => rw [(toMetadata_eq_ok outcome).2]
  | error problem =>
      obtain ⟨violation, first⟩ := toMetadata_eq_error outcome
      exact absurd first.violated wellFormed.not_violates

/-- A declaration is accepted exactly if its names, its module and the names of
its parameters are identifiers, no two parameters share a name and every default
fits its parameter.  Otherwise the error is that of the first violation. -/
theorem toMetadata_reports_first_violation (declaration : Declaration) :
    ((∃ metadata, declaration.toMetadata = .ok metadata) ↔ declaration.WellFormed) ∧
      ∀ error, declaration.toMetadata = .error error ↔
        ∃ violation, declaration.ViolatesFirst violation error := by
  constructor
  · constructor
    · rintro ⟨metadata, accepted⟩
      exact (toMetadata_eq_ok accepted).1
    · intro wellFormed
      exact ⟨_, toMetadata_of_wellFormed wellFormed⟩
  · intro error
    constructor
    · exact toMetadata_eq_error
    · rintro ⟨violation, first⟩
      cases outcome : declaration.toMetadata with
      | ok metadata => exact absurd first.violated (toMetadata_eq_ok outcome).1.not_violates
      | error problem =>
          obtain ⟨other, otherFirst⟩ := toMetadata_eq_error outcome
          rw [otherFirst.unique first]

end Declaration

end Assay
