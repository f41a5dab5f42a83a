import Assay.Proofs.Json.Rereading
import Assay.Proofs.Metadata
import Assay.Proofs.Metadata.RoundTrip

/-!
# What it takes to be read back

Metadata that is read back from its own text as the same definition has portable
parameters.  Nothing else is asked of the parameters than that their defaults are
values as they are kept in memory.
-/

namespace Assay

/-- A parameter whose default is a value as it is kept in memory, however deep it
is nested. -/
def Parameter.Ordered (parameter : Parameter) : Prop :=
  ∀ default ∈ parameter.default, ∃ depth, default.OrderedWithin depth

theorem Parameter.Portable.isOrdered
    {parameter : Parameter} (portable : parameter.Portable) : parameter.Ordered :=
  fun default given => ⟨defaultLevels, portable.ordered default given⟩

theorem Parameter.portable_of_decode
    {parameter decoded : Parameter} (ordered : parameter.Ordered)
    (read : decode (.text (defaultLevels + 1)) (.reread parameter.toJson) = .ok decoded)
    (same : decoded.same parameter = true) : parameter.Portable := by
  rw [decode, toJson, Json.Source.reread] at read
  obtain ⟨draft, read, finished⟩ := Json.Shape.decode_object_eq_ok read
  simp only [Json.Source.rereadMembers] at read
  obtain ⟨name, _, read⟩ := Json.Shape.readMembers_keep_eq_ok read rfl rfl
  obtain ⟨type, typeRead, read⟩ := Json.Shape.readMembers_keep_eq_ok read rfl rfl
  obtain ⟨written, defaultRead, read⟩ := Json.Shape.readMembers_keep_eq_ok read rfl rfl
  obtain ⟨flag, flagRead, read⟩ := Json.Shape.readMembers_keep_eq_ok read rfl rfl
  cases read
  cases finished
  cases flagRead
  simp only [Parameter.same, Bool.and_eq_true, beq_iff_eq] at same
  obtain ⟨⟨_, sameType⟩, sameDefault⟩ := same
  have survives : ∀ default ∈ parameter.default,
      default.OrderedWithin defaultLevels ∧ default.Legible := by
    intro default given
    obtain ⟨depth, within⟩ := ordered default given
    rw [Option.mem_def] at given
    rw [given] at defaultRead
    have sameValue : written.same default = true := by
      simpa [isOptional, given, Parameter.sameDefault] using sameDefault
    exact Json.Decoder.orderedWithin_and_legible_of_value within defaultRead sameValue
  refine ⟨?canonical, fun default given => (survives default given).1,
    fun default given => (survives default given).2⟩
  have parsed : ParameterType.parse parameter.type.name = .ok type :=
    Json.Decoder.checked_string_eq_ok typeRead
  have kept : type = parameter.type := sameType
  rw [kept] at parsed
  exact (ParameterType.parse_name_eq_ok_iff parameter.type).mp parsed

namespace Metadata

/-- Parameters that are taken out of their own texts one after the other are
portable if they are the same afterwards. -/
private theorem portable_of_items
    {parameters decoded : List Parameter}
    (ordered : ∀ parameter ∈ parameters, parameter.Ordered)
    (read : Json.Decoder.items Parameter.decode (.text (Parameter.defaultLevels + 1))
      (Json.Source.rereadItems (parameters.map Parameter.toJson)) = .ok decoded)
    (same : Parameter.sameAll decoded parameters = true) :
    ∀ parameter ∈ parameters, parameter.Portable := by
  induction parameters generalizing decoded with
  | nil => exact List.forall_mem_nil _
  | cons parameter parameters induction =>
      obtain ⟨firstOrdered, restOrdered⟩ := List.forall_mem_cons.mp ordered
      rw [List.map_cons, Json.Source.rereadItems, Json.Decoder.items] at read
      obtain ⟨first, firstRead, read⟩ := Json.bind_eq_ok read
      obtain ⟨rest, restRead, read⟩ := Json.bind_eq_ok read
      cases read
      simp only [Parameter.sameAll, Bool.and_eq_true] at same
      exact List.forall_mem_cons.mpr
        ⟨Parameter.portable_of_decode firstOrdered firstRead same.1,
          induction restOrdered restRead same.2⟩

/-- Metadata that is taken out of its own text as the same definition has
portable parameters. -/
theorem portable_of_decode
    {metadata decoded : Metadata}
    (ordered : ∀ parameter ∈ metadata.parameters, parameter.Ordered)
    (read : decode (.text Json.textLevels) (.reread metadata.toJson) = .ok decoded)
    (same : decoded.sameDefinition metadata = true) :
    ∀ parameter ∈ metadata.parameters, parameter.Portable := by
  have levels : Json.textLevels = Parameter.defaultLevels + 2 + 1 := rfl
  rw [decode, toJson, Json.Source.reread, levels] at read
  obtain ⟨draft, read, finished⟩ := Json.Shape.decode_object_eq_ok read
  simp only [Json.Source.rereadMembers] at read
  obtain ⟨_, _, read⟩ := Json.Shape.readMembers_keep_eq_ok read rfl rfl
  obtain ⟨_, _, read⟩ := Json.Shape.readMembers_keep_eq_ok read rfl rfl
  obtain ⟨_, _, read⟩ := Json.Shape.readMembers_keep_eq_ok read rfl rfl
  obtain ⟨_, _, read⟩ := Json.Shape.readMembers_keep_eq_ok read rfl rfl
  obtain ⟨_, _, read⟩ := Json.Shape.readMembers_keep_eq_ok read rfl rfl
  obtain ⟨_, _, read⟩ := Json.Shape.readMembers_keep_eq_ok read rfl rfl
  obtain ⟨_, _, read⟩ := Json.Shape.readMembers_keep_eq_ok read rfl rfl
  obtain ⟨_, _, read⟩ := Json.Shape.readMembers_keep_eq_ok read rfl rfl
  obtain ⟨parameters, parametersRead, read⟩ :=
    Json.Shape.readMembers_keep_eq_ok read rfl rfl
  obtain ⟨_, _, read⟩ := Json.Shape.readMembers_keep_eq_ok read rfl rfl
  obtain ⟨_, _, read⟩ := Json.Shape.readMembers_keep_eq_ok read rfl rfl
  cases read
  cases finished
  have sameParameters := sameAll_of_sameDefinition same
  rw [Json.Source.reread] at parametersRead
  have itemsRead := Json.Decoder.list_array_eq_ok parametersRead
  exact portable_of_items ordered itemsRead sameParameters

/-- Metadata that is read back from its text, with whatever blanks, as the same
definition has portable parameters. -/
theorem portable_of_readText
    {metadata decoded : Metadata}
    (ordered : ∀ parameter ∈ metadata.parameters, parameter.Ordered)
    {spacing : Json.Spacing} {text : String}
    (printed : text.toList = spacing.print 0 metadata.toJson)
    (read : decode.readText text = .ok decoded)
    (same : decoded.sameDefinition metadata = true) :
    ∀ parameter ∈ metadata.parameters, parameter.Portable := by
  rw [Json.Decoder.readText_print decode printed] at read
  exact portable_of_decode ordered read same

end Metadata

end Assay
