import Assay.Metadata
import Assay.Proofs.Json.Decoding

/-!
# Metadata read back from its text

Metadata is the same after it was written and read back, compact or indented,
if its types are those that their names stand for and its defaults are neither
nested too deep for a text nor hold a number that is read back as another one.
-/

namespace Assay

namespace ParameterType

/-- A type that its name stands for: the name of an object type is not empty, has
no blanks around it and is not that of a scalar type. -/
def Canonical : ParameterType → Prop
  | .object name =>
      name ≠ "" ∧ Text.trim name = name ∧ name ∉ ["int", "float", "str", "bool"]
  | _ => True

instance (type : ParameterType) : Decidable type.Canonical := by
  cases type <;> unfold Canonical <;> infer_instance

theorem ofName_eq_object_iff (text name : String) :
    ofName text = .object name ↔
      text = name ∧ text ∉ ["int", "float", "str", "bool"] := by
  unfold ofName
  simp only [List.mem_cons, List.not_mem_nil, or_false, not_or]
  constructor
  · intro equality
    split at equality <;> try contradiction
    split at equality <;> try contradiction
    split at equality <;> try contradiction
    split at equality <;> try contradiction
    rename_i notInt notFloat notStr notBool
    exact ⟨object.inj equality, notInt, notFloat, notStr, notBool⟩
  · rintro ⟨rfl, notInt, notFloat, notStr, notBool⟩
    rw [if_neg notInt, if_neg notFloat, if_neg notStr, if_neg notBool]

/-- The name of a type is read as that type exactly when the type is
canonical. -/
theorem parse_name_eq_ok_iff (type : ParameterType) :
    parse type.name = .ok type ↔ type.Canonical := by
  cases type with
  | int => exact ⟨fun _ => trivial, fun _ => rfl⟩
  | float => exact ⟨fun _ => trivial, fun _ => rfl⟩
  | str => exact ⟨fun _ => trivial, fun _ => rfl⟩
  | bool => exact ⟨fun _ => trivial, fun _ => rfl⟩
  | object name =>
      change (if Text.trim name = "" then _ else Except.ok (ofName (Text.trim name))) =
        Except.ok (.object name) ↔ name ≠ "" ∧ Text.trim name = name ∧ _
      constructor
      · intro parsed
        split at parsed
        · contradiction
        · rename_i notEmpty
          obtain ⟨trimmed, foreign⟩ :=
            (ofName_eq_object_iff _ _).mp (Except.ok.inj parsed)
          rw [trimmed] at notEmpty foreign
          exact ⟨notEmpty, trimmed, foreign⟩
      · rintro ⟨notEmpty, trimmed, foreign⟩
        rw [trimmed, if_neg notEmpty]
        exact congrArg _ ((ofName_eq_object_iff _ _).mpr ⟨rfl, foreign⟩)

theorem decode_toJson
    {type : ParameterType} (canonical : type.Canonical) (medium : Json.Medium) :
    decode medium (.ofValue type.toJson) = .ok type :=
  Json.Decoder.checked_string ((parse_name_eq_ok_iff type).mpr canonical) medium

end ParameterType

theorem Identity.decode_toJson (identity : Identity) (medium : Json.Medium) :
    decode medium (.ofValue identity.toJson) = .ok identity :=
  Json.Decoder.checked_string (ofText_text identity) medium

theorem DefinitionKind.decode_toJson (kind : DefinitionKind) (medium : Json.Medium) :
    decode medium (.ofValue kind.toJson) = .ok kind := by
  cases kind <;> cases medium <;> rfl

/-! ## Parameters -/

namespace Parameter

/-- The levels that a text leaves for a default: it stands in a parameter, in the
list of parameters, in the metadata. -/
def defaultLevels : Nat := Json.textLevels - 3

/-- A parameter that is not changed by writing and reading it: its type is the
one that its name stands for, and its default, ordered as values in memory are,
is not nested too deep and holds only numbers that are read back. -/
structure Portable (parameter : Parameter) : Prop where
  canonical : parameter.type.Canonical
  ordered : ∀ default ∈ parameter.default, default.OrderedWithin defaultLevels
  legible : ∀ default ∈ parameter.default, default.Legible

theorem decode_toJson
    {parameter : Parameter} (portable : parameter.Portable) :
    decode (.text (defaultLevels + 1)) (.ofValue parameter.toJson) =
      .ok parameter := by
  have written : (parameter.default.getD .null).OrderedWithin defaultLevels := by
    cases given : parameter.default with
    | none => exact .null
    | some default => exact portable.ordered default given
  have read : shape.readMembers (.text defaultLevels)
      (Json.Source.ofMembers [
        ("name", .string parameter.name),
        ("type", parameter.type.toJson),
        ("default", parameter.default.getD .null),
        ("optional", .bool parameter.isOptional)]) shape.blank =
      .ok ⟨some parameter.name, some parameter.type,
        some (parameter.default.getD .null), some parameter.isOptional⟩ := by
    simp only [Json.Source.ofMembers]
    rw [Json.Shape.readMembers_fill rfl rfl (Json.Field.keep_fill rfl _)]
    rw [Json.Shape.readMembers_fill rfl rfl (Json.Field.keep_fill
      (ParameterType.decode_toJson portable.canonical _) _)]
    rw [Json.Shape.readMembers_fill rfl rfl (Json.Field.keep_fill
      (Json.Decoder.value_ofValue written) _)]
    rw [Json.Shape.readMembers_fill rfl rfl (Json.Field.keep_fill rfl _)]
    rfl
  rw [decode, toJson, Json.Source.ofValue, Json.Shape.decode_object read]
  obtain ⟨name, type, default⟩ := parameter
  cases default <;> rfl

theorem legible_toJson
    {parameter : Parameter}
    (legible : ∀ default ∈ parameter.default, default.Legible) :
    parameter.toJson.Legible := by
  have written : (parameter.default.getD .null).Legible := by
    cases given : parameter.default with
    | none => exact .null
    | some default => exact legible default given
  apply Json.Value.Legible.object
  simp only [List.forall_mem_cons]
  exact ⟨.string _, .string _, written, .bool _, List.forall_mem_nil _⟩

end Parameter

/-! ## Metadata -/

namespace Metadata

theorem decode_versionToJson (version : Option Version) (medium : Json.Medium) :
    Json.Decoder.optional .natural32 medium (.ofValue (versionToJson version)) =
      .ok version := by
  cases version with
  | none => rfl
  | some version =>
      simp only [versionToJson, Json.Source.ofValue, Json.Decoder.optional,
        Json.Decoder.natural32_ofUInt32]
      rfl

theorem legible_toJson
    {metadata : Metadata}
    (legible : ∀ parameter ∈ metadata.parameters,
      ∀ default ∈ parameter.default, default.Legible) :
    metadata.toJson.Legible := by
  have tags : (Json.Value.array (metadata.tags.map .string)).Legible := by
    apply Json.Value.Legible.array
    intro item member
    obtain ⟨tag, _, rfl⟩ := List.mem_map.mp member
    exact .string tag
  have parameters :
      (Json.Value.array (metadata.parameters.map Parameter.toJson)).Legible := by
    apply Json.Value.Legible.array
    intro item member
    obtain ⟨parameter, present, rfl⟩ := List.mem_map.mp member
    exact Parameter.legible_toJson (legible parameter present)
  have version : (versionToJson metadata.version).Legible := by
    cases metadata.version with
    | none => exact .null
    | some version => exact .number (Json.Number.readsBack_integer _ _)
  apply Json.Value.Legible.object
  simp only [List.forall_mem_cons]
  exact ⟨.string _, .string _, .string _, .string _, .string _, .string _,
    .string _, tags, parameters, .string _, version, List.forall_mem_nil _⟩

theorem decode_toJson
    {metadata : Metadata}
    (portable : ∀ parameter ∈ metadata.parameters, parameter.Portable) :
    decode (.text Json.textLevels) (.ofValue metadata.toJson) = .ok metadata := by
  have tags : Json.Decoder.list .string (.text (Parameter.defaultLevels + 2))
      (.ofValue (.array (metadata.tags.map .string))) = .ok metadata.tags :=
    Json.Decoder.list_ofValue fun _ _ => rfl
  have parameters : Json.Decoder.list Parameter.decode (.text (Parameter.defaultLevels + 2))
      (.ofValue (.array (metadata.parameters.map Parameter.toJson))) =
        .ok metadata.parameters :=
    Json.Decoder.list_ofValue fun parameter member =>
      Parameter.decode_toJson (portable parameter member)
  have read : shape.readMembers (.text (Parameter.defaultLevels + 2))
      (Json.Source.ofMembers [
        ("uuid", metadata.identity.toJson),
        ("name", .string metadata.name),
        ("display_name", .string metadata.displayName),
        ("module", .string metadata.moduleName),
        ("doc", .string metadata.doc),
        ("module_doc", .string metadata.moduleDoc),
        ("code", .string metadata.code),
        ("tags", .array (metadata.tags.map .string)),
        ("args", .array (metadata.parameters.map Parameter.toJson)),
        ("kind", metadata.kind.toJson),
        ("version", versionToJson metadata.version)]) shape.blank =
      .ok ⟨some metadata.identity, some metadata.name, some metadata.displayName,
        some metadata.moduleName, some metadata.doc, some metadata.moduleDoc,
        some metadata.code, some metadata.tags, some metadata.parameters,
        some metadata.kind, some metadata.version⟩ := by
    simp only [Json.Source.ofMembers]
    rw [Json.Shape.readMembers_fill rfl rfl (Json.Field.keep_fill
      (Identity.decode_toJson _ _) _)]
    rw [Json.Shape.readMembers_fill rfl rfl (Json.Field.keep_fill rfl _)]
    rw [Json.Shape.readMembers_fill rfl rfl (Json.Field.keep_fill rfl _)]
    rw [Json.Shape.readMembers_fill rfl rfl (Json.Field.keep_fill rfl _)]
    rw [Json.Shape.readMembers_fill rfl rfl (Json.Field.keep_fill rfl _)]
    rw [Json.Shape.readMembers_fill rfl rfl (Json.Field.keep_fill rfl _)]
    rw [Json.Shape.readMembers_fill rfl rfl (Json.Field.keep_fill rfl _)]
    rw [Json.Shape.readMembers_fill rfl rfl (Json.Field.keep_fill tags _)]
    rw [Json.Shape.readMembers_fill rfl rfl (Json.Field.keep_fill parameters _)]
    rw [Json.Shape.readMembers_fill rfl rfl (Json.Field.keep_fill
      (DefinitionKind.decode_toJson _ _) _)]
    rw [Json.Shape.readMembers_fill rfl rfl (Json.Field.keep_fill
      (decode_versionToJson _ _) _)]
    rfl
  have levels : Json.textLevels = Parameter.defaultLevels + 2 + 1 := rfl
  rw [decode, toJson, Json.Source.ofValue, levels, Json.Shape.decode_object read]
  rfl

/-- Metadata is read back from its text with whatever blanks. -/
theorem readText_of_print
    {metadata : Metadata}
    (portable : ∀ parameter ∈ metadata.parameters, parameter.Portable)
    {spacing : Json.Spacing} {text : String}
    (printed : text.toList = spacing.print 0 metadata.toJson) :
    decode.readText text = .ok metadata := by
  have legible : metadata.toJson.Legible :=
    legible_toJson fun parameter member => (portable parameter member).legible
  rw [Json.Decoder.readText_print decode printed, Json.Source.reread_of_legible legible,
    decode_toJson portable]

/-- Metadata is read back from its compact and from its indented text. -/
theorem readText_toJson
    (metadata : Metadata)
    (portable : ∀ parameter ∈ metadata.parameters, parameter.Portable) :
    decode.readText metadata.toJson.compact = .ok metadata ∧
      decode.readText metadata.toJson.indented = .ok metadata :=
  ⟨readText_of_print portable (Json.Value.toList_compact metadata.toJson),
    readText_of_print portable (Json.Value.toList_indented metadata.toJson)⟩

/-- A definition whose texts hold quotes, controls and characters of every
length, and whose parameters are required, optional with null and optional with
a nested value. -/
def withinTolerance : Metadata where
  identity := ⟨"within-tolerance", by decide⟩
  name := "within_tolerance"
  displayName := "Within \"tolerance\"\t\\ ±5 %"
  moduleName := "checks.numeric"
  doc := "Ends in NUL:\x00"
  moduleDoc := ""
  code := "def within_tolerance():\n\treturn \"𝄞\""
  tags := ["slow", "", "slow"]
  parameters := [
    ⟨"client", .object "Remote client", none⟩,
    ⟨"label", .str, some .null⟩,
    ⟨"tolerance", .float, some (.number (.binary ⟨0x3FB999999999999A⟩ rfl))⟩,
    ⟨"limits", .object "Limits", some (.object [
      ("high", .array [.number (.integer 18446744073709551615 (by decide)), .object []]),
      ("low", .number (.integer (-3) (by decide)))])⟩]
  kind := .classBased
  version := some 4294967295

theorem portable_withinTolerance :
    ∀ parameter ∈ withinTolerance.parameters, parameter.Portable := by
  have readsBack : (Json.Number.binary ⟨0x3FB999999999999A⟩ rfl).ReadsBack := rfl
  simp only [withinTolerance, List.forall_mem_cons]
  refine ⟨?client, ?label, ?tolerance, ?limits, List.forall_mem_nil _⟩
  case client => exact ⟨by decide, by simp, by simp⟩
  case label =>
    exact ⟨trivial, by simpa using .null, by simpa using .null⟩
  case tolerance =>
    exact ⟨trivial, by simpa using .number _, by simpa using .number readsBack⟩
  case limits =>
    refine ⟨by decide, ?_, ?_⟩
    · rintro _ ⟨⟩
      refine .object (by decide) ?_
      simp only [List.forall_mem_cons]
      refine ⟨.array ?_, .number _, List.forall_mem_nil _⟩
      simp only [List.forall_mem_cons]
      exact ⟨.number _, .object .nil (List.forall_mem_nil _), List.forall_mem_nil _⟩
    · rintro _ ⟨⟩
      refine .object ?_
      simp only [List.forall_mem_cons]
      refine ⟨.array ?_, .number (Json.Number.readsBack_integer _ _), List.forall_mem_nil _⟩
      simp only [List.forall_mem_cons]
      exact ⟨.number (Json.Number.readsBack_integer _ _),
        .object (List.forall_mem_nil _), List.forall_mem_nil _⟩

theorem readText_withinTolerance :
    (∀ parameter ∈ withinTolerance.parameters, parameter.Portable) ∧
      decode.readText withinTolerance.toJson.compact = .ok withinTolerance ∧
      decode.readText withinTolerance.toJson.indented = .ok withinTolerance :=
  ⟨portable_withinTolerance, readText_toJson withinTolerance portable_withinTolerance⟩

end Metadata

end Assay
