import Assay.Proofs.Metadata
import Assay.Proofs.Registry
import Assay.Proofs.Suite.Locality

/-!
# Defaults as arguments

A default is checked when its definition is declared and read when a check runs
with it.  Both look at the kind of the value, with one difference: the check
admits every integer for `int`, while only integers of 64 bits with sign can be
read.
-/

namespace Assay

variable {σ : Type}

/-! ## Reading an argument by its type -/

/-- The reader for a scalar type gives the content of a JSON value for an
argument. -/
inductive Arguments.Reads (arguments : Arguments) (name : String) :
    ParameterType → Json.Value → Prop where
  | int {number : Int} {fits : Json.fitsInteger number}
      (read : arguments.int64 name = .ok number) :
      Reads arguments name .int (.number (.integer number fits))
  | float {number : Json.Number}
      (read : arguments.binary64 name = .ok number.toBinary64) :
      Reads arguments name .float (.number number)
  | str {text : String} (read : arguments.text name = .ok text) :
      Reads arguments name .str (.string text)
  | bool {flag : Bool} (read : arguments.bool name = .ok flag) :
      Reads arguments name .bool (.bool flag)

/-- An integer for `int` that is too large for 64 bits with sign. -/
def ParameterType.Exceeds (type : ParameterType) (value : Json.Value) : Prop :=
  type = .int ∧ ∃ number fits,
    value = .number (.integer number fits) ∧ 9223372036854775808 ≤ number

namespace Arguments

variable {arguments : Arguments} {name : String}

theorem readAs_of_find?
    {α : Type} {value : ArgumentValue} (found : arguments.find? name = some value)
    (expected : String) (convert : ArgumentValue → Option α) :
    arguments.readAs name expected convert =
      match convert value with
      | some content => .ok content
      | none => .error (.notA name expected) := by
  cases converted : convert value <;> simp only [readAs, found, converted]

/-- An integer is read exactly if it has 64 bits with sign. -/
theorem int64_of_find?
    {number : Int} {fits : Json.fitsInteger number}
    (found : arguments.find? name = some (.json (.number (.integer number fits)))) :
    arguments.int64 name =
      if number < 9223372036854775808 then .ok number
      else .error (.notA name "an int") := by
  rw [int64, readAs_of_find? found]
  simp only [ArgumentValue.toInt64?, ArgumentValue.toJson?, Option.bind_some,
    Json.Value.toInt64?, Json.Number.toInt64?]
  by_cases small : number < 9223372036854775808
  · simp only [if_pos small]
  · simp only [if_neg small]

/-- What fits a scalar type is read by the reader for that type, but for
integers that are too large. -/
theorem reads_iff_of_fits
    {type : ParameterType} {value : Json.Value} (fits : type.Fits value)
    (scalar : ∀ other, type ≠ .object other) (notNull : value ≠ .null)
    (found : arguments.find? name = some (.json value)) :
    (arguments.Reads name type value ↔ ¬type.Exceeds value) ∧
      (type.Exceeds value → arguments.int64 name = .error (.notA name "an int")) := by
  have readable (reads : arguments.Reads name type value) (different : type ≠ .int) :
      (arguments.Reads name type value ↔ ¬type.Exceeds value) ∧
        (type.Exceeds value → arguments.int64 name = .error (.notA name "an int")) :=
    ⟨iff_of_true reads fun exceeds => different exceeds.1,
      fun exceeds => absurd exceeds.1 different⟩
  cases fits with
  | null => contradiction
  | other => exact absurd rfl (scalar _)
  | @integer number fits =>
      have exceeds : ParameterType.Exceeds .int (.number (.integer number fits)) ↔
          9223372036854775808 ≤ number := by
        simp [ParameterType.Exceeds, fits]
      rw [exceeds]
      have outcome := int64_of_find? found
      by_cases small : number < 9223372036854775808
      · rw [if_pos small] at outcome
        exact ⟨iff_of_true (.int outcome) (by omega), fun large => by omega⟩
      · rw [if_neg small] at outcome
        refine ⟨iff_of_false ?_ (by omega), fun _ => outcome⟩
        intro reads
        cases reads with
        | int read => rw [outcome] at read; contradiction
  | number => exact readable (.float (readAs_of_find? found _ _)) (by simp)
  | text => exact readable (.str (readAs_of_find? found _ _)) (by simp)
  | flag => exact readable (.bool (readAs_of_find? found _ _)) (by simp)

end Arguments

/-! ## Values of the same content -/

/-- An integer is the same as no other value. -/
theorem Json.Value.eq_integer_of_same
    {value : Json.Value} {number : Int} {fits : Json.fitsInteger number}
    (same : value.same (.number (.integer number fits)) = true) :
    value = .number (.integer number fits) := by
  cases value with
  | number content =>
      cases content with
      | integer other otherFits =>
          obtain rfl : other = number := by simpa [Json.Value.same, Json.Number.same] using same
          rfl
      | binary other finite => simp [Json.Value.same, Json.Number.same] at same
  | _ => simp [Json.Value.same] at same

theorem Json.Value.eq_null_of_same
    {value : Json.Value} (same : value.same .null = true) : value = .null := by
  cases value with
  | null => rfl
  | _ => simp [Json.Value.same] at same

namespace ParameterType

variable {type : ParameterType} {left right : Json.Value}

theorem Fits.of_same (fits : type.Fits right) (same : left.same right = true) :
    type.Fits left := by
  cases fits with
  | null => exact Json.Value.eq_null_of_same same ▸ .null
  | integer => exact Json.Value.eq_integer_of_same same ▸ .integer
  | number =>
      cases left with
      | number => exact .number
      | _ => simp [Json.Value.same] at same
  | text =>
      cases left with
      | string => exact .text
      | _ => simp [Json.Value.same] at same
  | flag =>
      cases left with
      | bool => exact .flag
      | _ => simp [Json.Value.same] at same
  | other => exact .other

theorem Exceeds.of_same (exceeds : type.Exceeds right) (same : left.same right = true) :
    type.Exceeds left := by
  obtain ⟨rfl, number, fits, rfl, large⟩ := exceeds
  exact ⟨rfl, number, fits, Json.Value.eq_integer_of_same same, large⟩

theorem exceeds_iff_of_same (same : left.same right = true) :
    type.Exceeds left ↔ type.Exceeds right := by
  constructor
  · intro exceeds
    rw [Json.Value.same_symm] at same
    exact exceeds.of_same same
  · intro exceeds
    exact exceeds.of_same same

end ParameterType

/-! ## Instances that run with a default -/

/-- The arguments that an instance gets with some globals, in a suite or, without
any, on its own. -/
inductive Instance.Receives (bound : Instance σ) : Arguments → Arguments → Prop where
  | inSuite {instances : List (Instance σ)} {globals : Arguments}
      {resolved : List Arguments} {position : Nat} {arguments : Arguments}
      (resolution : Resolution.resolveAll instances globals = .ok resolved)
      (listed : instances[position]? = some bound)
      (given : resolved[position]? = some arguments) :
      Receives bound globals arguments
  | alone {arguments : Arguments}
      (resolution : Resolution.resolveInstance 0 bound .empty .empty = .ok arguments) :
      Receives bound .empty arguments

open Resolution

/-- Either way the arguments are those that the instance has for itself. -/
theorem Instance.Receives.arguments_eq
    {bound : Instance σ} {globals arguments : Arguments}
    (received : bound.Receives globals arguments) :
    WellBound globals bound ∧ arguments = argumentsFrom globals bound := by
  cases received with
  | inSuite resolution listed given =>
      obtain ⟨_, wellBound, rfl⟩ := resolveAll_eq_ok_iff.mp resolution
      rw [List.getElem?_map, listed, Option.map_some] at given
      exact ⟨wellBound bound (List.mem_of_getElem? listed), (Option.some.inj given).symm⟩
  | alone resolution =>
      rw [resolveInstance_of_carries (carries_self .empty bound.bindings)] at resolution
      split at resolution
      · rename_i wellBound
        exact ⟨wellBound, (Except.ok.inj resolution).symm⟩
      · contradiction

/-- A parameter that nothing else gives a value has its default. -/
theorem Instance.Receives.find?_default
    {bound : Instance σ} (obtained : bound.Obtained)
    {globals arguments : Arguments} (received : bound.Receives globals arguments)
    {parameter : Parameter} (member : parameter ∈ bound.metadata.parameters)
    (unbound : bound.bindings.find? parameter.name = none)
    (absent : globals.find? parameter.name = none)
    {default : Json.Value} (optional : parameter.default = some default) :
    arguments.find? parameter.name = some (.json default) := by
  obtain ⟨wellBound, rfl⟩ := received.arguments_eq
  have completes := completes_of_wellBound (carries_self globals bound.bindings)
    obtained.parameters_distinct wellBound
  exact (completes.values parameter member _).mpr (.default unbound absent optional)

/-- Whatever accepted definition an instance comes from, and wherever it runs: if
a scalar parameter gets its default, which is not null, then the reader for its
type reads it, unless it is an integer that is too large for 64 bits with
sign. -/
theorem received_default_readable_iff
    {definition : Definition σ} {registry : Registry} {fresh : Instance σ}
    (success : (definition.bind registry).1 = .ok fresh)
    {parameter : Parameter} (declared : parameter ∈ definition.declaration.parameters)
    (scalar : ∀ other, parameter.type ≠ .object other)
    {default : Json.Value} (optional : parameter.default = some default)
    (notNull : default ≠ .null)
    {bindings : NameTable Binding} {globals arguments : Arguments}
    (received : ({ fresh with bindings := bindings } : Instance σ).Receives globals arguments)
    (unbound : bindings.find? parameter.name = none)
    (absent : globals.find? parameter.name = none) :
    ∃ value, arguments.find? parameter.name = some (.json value) ∧
      value.same default = true ∧
      (arguments.Reads parameter.name parameter.type value ↔
        ¬parameter.type.Exceeds default) ∧
      (parameter.type.Exceeds default →
        arguments.int64 parameter.name = .error (.notA parameter.name "an int")) := by
  obtain ⟨candidate, accepted, agrees, -⟩ := Definition.bind_eq_ok success
  obtain ⟨wellFormed, rfl⟩ := Declaration.toMetadata_eq_ok accepted
  obtain ⟨kept, member, same⟩ := Parameter.exists_same_of_sameAll
    (Metadata.sameAll_of_sameDefinition agrees) declared
  simp only [Parameter.same, Bool.and_eq_true, beq_iff_eq, optional] at same
  obtain ⟨⟨sameName, -⟩, sameDefault⟩ := same
  obtain ⟨value, keptOptional, sameValue⟩ :
      ∃ value, kept.default = some value ∧ value.same default = true := by
    cases keptDefault : kept.default with
    | none => simp [keptDefault, Parameter.sameDefault] at sameDefault
    | some value =>
        rw [keptDefault, Parameter.sameDefault] at sameDefault
        exact ⟨value, rfl, sameDefault⟩
  rw [← sameName] at unbound absent ⊢
  have found := received.find?_default ⟨definition, registry, fresh, success, rfl⟩ member
    unbound absent keptOptional
  have fits : parameter.type.Fits value :=
    (wellFormed.defaults parameter declared default optional).of_same sameValue
  have valueNotNull : value ≠ .null := by
    rintro rfl
    rw [Json.Value.same_symm] at sameValue
    exact notNull (Json.Value.eq_null_of_same sameValue)
  refine ⟨value, found, sameValue, ?_⟩
  rw [← ParameterType.exceeds_iff_of_same sameValue]
  exact Arguments.reads_iff_of_fits fits scalar valueNotNull found

section Limited

variable (number : Int) (fits : Json.fitsInteger number)

/-- A definition whose only parameter has an integer for its default. -/
def limited : Definition Unit where
  declaration :=
    { moduleName := "checks"
      name := "limited"
      displayName := none
      doc := ""
      moduleDoc := ""
      code := ""
      tags := []
      parameters := [⟨"limit", .int, some (.number (.integer number fits))⟩]
      kind := .function }
  logic := fun _ state => (.ok (.verdict true), state)

def limitedInstance : Instance Unit :=
  ⟨(limited number fits).declaration.metadata, (limited number fits).logic, .empty⟩

theorem limited_bind :
    ((limited number fits).bind .empty).1 = .ok (limitedInstance number fits) := by
  have wellFormed : (limited number fits).declaration.WellFormed :=
    { name := (Text.isIdentifier_iff "limited").mp rfl
      moduleName := (Text.isDottedIdentifier_iff "checks").mp rfl
      parameterNames := by
        intro parameter declared
        obtain rfl := List.mem_singleton.mp declared
        exact (Text.isIdentifier_iff "limit").mp rfl
      distinct := List.nodup_singleton "limit"
      defaults := by
        intro parameter declared default optional
        obtain rfl := List.mem_singleton.mp declared
        obtain rfl := Option.some.inj optional
        exact .integer }
  rw [Definition.bind_eq_of_unknown (Declaration.toMetadata_of_wellFormed wellFormed)
    (Registry.find?_empty _)]
  rfl

theorem limitedInstance_receives :
    (limitedInstance number fits).Receives .empty
      (NameTable.empty.insert "limit" (.json (.number (.integer number fits)))) :=
  .alone rfl

end Limited

/-- The greatest integer of 64 bits with sign is read as it was declared. -/
theorem received_default_readable_greatest :
    let number : Int := 9223372036854775807
    ∃ (fits : Json.fitsInteger number) (arguments : Arguments),
      ((limited number fits).bind .empty).1 = .ok (limitedInstance number fits) ∧
        (limitedInstance number fits).Receives .empty arguments ∧
        arguments.Reads "limit" .int (.number (.integer number fits)) := by
  intro number
  have fits : Json.fitsInteger number := by decide
  have success := limited_bind number fits
  have received := limitedInstance_receives number fits
  have declared : (⟨"limit", .int, some (.number (.integer number fits))⟩ : Parameter) ∈
      (limited number fits).declaration.parameters := List.mem_cons_self
  obtain ⟨value, found, same, readable, -⟩ :=
    received_default_readable_iff success declared nofun rfl nofun received rfl rfl
  obtain rfl := Json.Value.eq_integer_of_same same
  refine ⟨fits, _, success, received, readable.mpr ?_⟩
  rintro ⟨-, other, otherFits, shape, large⟩
  obtain rfl : number = other := by simpa using shape
  exact absurd large (by decide)

/-- The next integer is accepted as a default as well, and cannot be read. -/
theorem default_beyond_greatest_unreadable :
    let number : Int := 9223372036854775808
    ∃ (fits : Json.fitsInteger number) (arguments : Arguments),
      ((limited number fits).bind .empty).1 = .ok (limitedInstance number fits) ∧
        (limitedInstance number fits).Receives .empty arguments ∧
        arguments.find? "limit" = some (.json (.number (.integer number fits))) ∧
        arguments.int64 "limit" = .error (.notA "limit" "an int") := by
  intro number
  have fits : Json.fitsInteger number := by decide
  have found := NameTable.find?_insert .empty "limit"
    (ArgumentValue.json (.number (.integer number fits))) "limit"
  rw [if_pos rfl] at found
  refine ⟨fits, _, limited_bind number fits, limitedInstance_receives number fits, found, ?_⟩
  rw [Arguments.int64_of_find? found, if_neg (by decide)]

end Assay
