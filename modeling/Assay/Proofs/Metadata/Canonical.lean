import Assay.Proofs.Json.Structures
import Assay.Proofs.Metadata.RoundTrip
import Mathlib.Data.List.DropRight
import Mathlib.Tactic.SplitIfs

/-!
# Metadata in canonical form

Many texts are read as the same metadata: fields may come in any order or as an array,
some may be missing, unknown ones are skipped, and the names of types may stand between
blanks.  Whatever the text was, what is read is in a form that writing and reading do
not change any more.
-/

namespace Assay

namespace Text

@[simp] theorem trimList_trimList (characters : List Char) :
    trimList (trimList characters) = trimList characters := by
  have start : (trimList characters).dropWhile isBlank = trimList characters := by
    rw [List.dropWhile_eq_self_iff]
    intro some
    have inside : trimList characters <+: characters.dropWhile isBlank :=
      List.rdropWhile_prefix isBlank _
    rw [inside.getElem some]
    exact List.dropWhile_get_zero_not isBlank characters
      (Nat.lt_of_lt_of_le some inside.length_le)
  change ((trimList characters).dropWhile isBlank).rdropWhile isBlank = trimList characters
  rw [start]
  exact List.rdropWhile_idempotent isBlank _

@[simp] theorem trim_trim (text : String) : trim (trim text) = trim text := by
  simp only [trim, String.toList_ofList, trimList_trimList]

end Text

@[simp] theorem ParameterType.name_ofName (text : String) : (ofName text).name = text := by
  unfold ofName
  split_ifs with int float str bool
  · exact int.symm
  · exact float.symm
  · exact str.symm
  · exact bool.symm
  · rfl

/-- A type that was read is the one that its name stands for. -/
theorem ParameterType.canonical_of_parse
    {text : String} {type : ParameterType} (parsed : parse text = .ok type) :
    type.Canonical := by
  rw [parse] at parsed
  split at parsed
  · contradiction
  · rename_i notEmpty
    obtain rfl := Except.ok.inj parsed
    apply (parse_name_eq_ok_iff _).mp
    rw [name_ofName, parse, Text.trim_trim, if_neg notEmpty]

/-! ## Parameters -/

namespace Parameter

theorem keeps_type : shape.Keeps "type" ParameterType.decode (·.type) where
  kept := ⟨true, _, rfl, fun _ _ => rfl⟩
  others := by simp [shape]
  once := by decide
  blank := rfl

theorem keeps_default : shape.Keeps "default" Json.Decoder.anyValue (·.default) where
  kept := ⟨false, _, rfl, fun _ _ => rfl⟩
  others := by simp [shape]
  once := by decide
  blank := rfl

theorem keeps_optional : shape.Keeps "optional" Json.Decoder.bool (·.optional) where
  kept := ⟨false, _, rfl, fun _ _ => rfl⟩
  others := by simp [shape]
  once := by decide
  blank := rfl

/-- Whether the source of a parameter says that it is optional. -/
def SaysOptional (source : Json.Source) : Prop :=
  shape.given? "optional" source = some (.bool true)

theorem optional_eq_some_true_iff
    {medium : Json.Medium} {source : Json.Source} {draft : Draft}
    (fills : shape.Fills medium source draft) :
    draft.optional = some true ↔ SaysOptional source := by
  have taken := fills.kept keeps_optional
  rw [SaysOptional]
  cases said : draft.optional with
  | none =>
      rw [said] at taken
      simp [taken.of_none]
  | some flag =>
      rw [said] at taken
      obtain ⟨part, given, decoded⟩ := taken.of_some
      rw [given, Json.Decoder.bool_eq_ok decoded]
      simp

/-- Whatever a parameter is read from, its type is the one that its name stands for, its
default is a value as it is kept in memory, and it has a default just when it is said to
be optional, whether a default is given or not. -/
theorem canonical_of_decode
    {levels : Nat} {source : Json.Source} {parameter : Parameter}
    (read : decode (.text (levels + 1)) source = .ok parameter) :
    parameter.type.Canonical ∧
      (∀ default ∈ parameter.default, default.OrderedWithin levels) ∧
      (parameter.isOptional = true ↔ SaysOptional source) := by
  obtain ⟨_, draft, entered, fills, finished⟩ := Json.Shape.decode_eq_ok read
  obtain rfl := Except.ok.inj entered
  obtain ⟨name, _, typed⟩ := Json.bind_eq_ok finished
  obtain ⟨type, hasType, done⟩ := Json.bind_eq_ok typed
  obtain rfl := Except.ok.inj done
  refine ⟨?canonical, ?ordered, ?optional⟩
  case canonical =>
    have taken := fills.kept keeps_type
    rw [Json.needed_eq_ok hasType] at taken
    obtain ⟨part, _, decoded⟩ := taken.of_some
    obtain ⟨text, _, parsed⟩ := Json.Decoder.checked_eq_ok decoded
    exact ParameterType.canonical_of_parse parsed
  case ordered =>
    have taken := fills.kept keeps_default
    intro default given
    have same : draft.default.getD .null = default := by
      simp only at given
      split at given
      · exact Option.some.inj given
      · contradiction
    cases known : draft.default with
    | none =>
        rw [known] at same
        exact same ▸ .null
    | some value =>
        rw [known] at same taken
        obtain ⟨part, _, decoded⟩ := taken.of_some
        exact same ▸ Json.Decoder.orderedWithin_of_value part decoded
  case optional =>
    rw [← optional_eq_some_true_iff fills]
    cases draft.optional with
    | none => simp [isOptional]
    | some flag => cases flag <;> simp [isOptional]

end Parameter

/-! ## Metadata -/

namespace Metadata

theorem keeps_parameters :
    shape.Keeps "args" (Json.Decoder.list Parameter.decode) (·.parameters) where
  kept := ⟨false, _, rfl, fun _ _ => rfl⟩
  others := by simp [shape]
  once := by decide
  blank := rfl

/-- What the source of metadata has for its parameters. -/
def parameterSources (source : Json.Source) : List Json.Source :=
  match shape.given? "args" source with
  | some (.array sources _) => sources
  | _ => []

/-- Each parameter is taken out of its own part of the text, three levels within it. -/
theorem parameters_of_decode
    {levels : Nat} {source : Json.Source} {metadata : Metadata}
    (read : decode (.text (levels + 3)) source = .ok metadata) :
    List.Forall₂ (fun part parameter =>
        Parameter.decode (.text (levels + 1)) part = .ok parameter)
      (parameterSources source) metadata.parameters := by
  obtain ⟨_, draft, entered, fills, finished⟩ := Json.Shape.decode_eq_ok read
  obtain rfl := Except.ok.inj entered
  obtain ⟨_, _, named⟩ := Json.bind_eq_ok finished
  obtain ⟨_, _, shown⟩ := Json.bind_eq_ok named
  obtain ⟨_, _, placed⟩ := Json.bind_eq_ok shown
  obtain ⟨_, _, done⟩ := Json.bind_eq_ok placed
  obtain rfl := Except.ok.inj done
  have taken := fills.kept keeps_parameters
  rw [parameterSources]
  cases known : draft.parameters with
  | none =>
      rw [known] at taken
      rw [taken.of_none]
      exact .nil
  | some parameters =>
      rw [known] at taken
      obtain ⟨part, given, decoded⟩ := taken.of_some
      obtain ⟨inner, sources, ending, enteredList, rfl, each⟩ := Json.Decoder.list_eq_ok decoded
      obtain rfl := Except.ok.inj enteredList
      rw [given]
      exact each

/-- Metadata that was read from any part of a text is portable but for numbers that are
read back as others. -/
theorem portable_of_part
    {levels : Nat} {source : Json.Source} {metadata : Metadata}
    (read : decode (.text (levels + 3)) source = .ok metadata)
    (few : levels ≤ Parameter.defaultLevels)
    (legible : ∀ parameter ∈ metadata.parameters, ∀ default ∈ parameter.default,
      default.Legible) :
    ∀ parameter ∈ metadata.parameters, parameter.Portable := by
  intro parameter member
  obtain ⟨part, _, decoded⟩ :=
    Json.Decoder.exists_source_of_mem (parameters_of_decode read) member
  obtain ⟨canonical, ordered, _⟩ := Parameter.canonical_of_decode decoded
  exact ⟨canonical, fun default given => (ordered default given).mono few,
    legible parameter member⟩

theorem portable_of_parameters
    {source : Json.Source} {metadata : Metadata}
    (read : decode (.text Json.textLevels) source = .ok metadata)
    (legible : ∀ parameter ∈ metadata.parameters, ∀ default ∈ parameter.default,
      default.Legible) :
    ∀ parameter ∈ metadata.parameters, parameter.Portable :=
  portable_of_part read (Nat.le_refl Parameter.defaultLevels) legible

/-- Whatever text metadata was read from, it is in canonical form: its identity is an
accepted one, its types are those that their names stand for, and a parameter is optional
just when its text says so.  If the numbers of its defaults are read back, it is the same
after it was written and read again, and then it is written as the same text. -/
theorem readText_canonical
    {text : String} {metadata : Metadata} (read : decode.readText text = .ok metadata) :
    Identity.ofText metadata.identity.text = .ok metadata.identity ∧
      (∀ parameter ∈ metadata.parameters, parameter.type.Canonical) ∧
      List.Forall₂ (fun source parameter =>
          parameter.isOptional = true ↔ Parameter.SaysOptional source)
        (parameterSources (Json.Source.read text.toList).1) metadata.parameters ∧
      ((∀ parameter ∈ metadata.parameters, ∀ default ∈ parameter.default, default.Legible) →
        ∀ write ∈ [Json.Value.compact, Json.Value.indented],
          ∃ again, decode.readText (write metadata.toJson) = .ok again ∧ again = metadata ∧
            write again.toJson = write metadata.toJson) := by
  have decoded := Json.Decoder.readText_eq_ok read
  have each := parameters_of_decode decoded
  refine ⟨Identity.ofText_text metadata.identity, ?types, ?optional, ?again⟩
  case types =>
    intro parameter member
    obtain ⟨part, _, taken⟩ := Json.Decoder.exists_source_of_mem each member
    exact (Parameter.canonical_of_decode taken).1
  case optional =>
    exact each.imp fun _ _ taken => (Parameter.canonical_of_decode taken).2.2
  case again =>
    intro legible write either
    have portable := portable_of_parameters decoded legible
    refine ⟨metadata, ?_, rfl, rfl⟩
    rcases List.mem_cons.mp either with rfl | other
    · exact readText_of_print portable (Json.Value.toList_compact metadata.toJson)
    · rw [List.mem_singleton.mp other]
      exact readText_of_print portable (Json.Value.toList_indented metadata.toJson)

/-- A definition as an array, without its last fields.  Its first parameter is an object in
another order, with a member that is unknown and without a default, its second one an array
with a default that does not count. -/
def loose : Json.Value :=
  .array [.string "mean", .string "mean", .string "Mean", .string "checks", .string "",
    .string "", .string "", .array [.string "slow"],
    .array [
      .object [("unit", .array [.null]), ("optional", .bool true),
        ("type", .string " Column\t"), ("name", .string "column")],
      .array [.string "shift", .string "int ", .number (.integer 5 (by decide))]]]

/-- What is read from it. -/
def settled : Metadata where
  identity := ⟨"mean", by decide⟩
  name := "mean"
  displayName := "Mean"
  moduleName := "checks"
  doc := ""
  moduleDoc := ""
  code := ""
  tags := ["slow"]
  parameters := [⟨"column", .object "Column", some .null⟩, ⟨"shift", .int, none⟩]
  kind := .function
  version := none

theorem readText_loose : decode.readText loose.compact = .ok settled := by
  rw [Json.Decoder.readText_print decode (Json.Value.toList_compact loose)]
  rfl

/-- It is settled by being read: from then on it is written as one text. -/
theorem readText_canonical_loose :
    decode.readText loose.compact = .ok settled ∧
      (∀ parameter ∈ settled.parameters, parameter.type.Canonical) ∧
      ∀ write ∈ [Json.Value.compact, Json.Value.indented],
        ∃ again, decode.readText (write settled.toJson) = .ok again ∧ again = settled ∧
          write again.toJson = write settled.toJson := by
  obtain ⟨_, types, _, again⟩ := readText_canonical readText_loose
  have legible : ∀ parameter ∈ settled.parameters, ∀ default ∈ parameter.default,
      default.Legible := by
    simp only [settled, List.forall_mem_cons]
    refine ⟨?_, by simp, List.forall_mem_nil _⟩
    rintro _ ⟨⟩
    exact .null
  exact ⟨readText_loose, types, again legible⟩

end Metadata

end Assay
