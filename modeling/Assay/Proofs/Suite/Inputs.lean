import Assay.Proofs.NameTable
import Assay.Suite.Resolution
import Mathlib.Data.List.Nodup

/-!
# Shared inputs of a list of instances

The inputs of some instances can be collected exactly when all references to
one name agree on its type.  What is collected is then what is referenced, and
the supplied values are those of the globals for the referenced names.
-/

namespace Assay

variable {σ : Type}

/-- Some instance has a name wired to the placeholder. -/
def Wired (instances : List (Instance σ)) (placeholder : SuiteInput) : Prop :=
  ∃ bound ∈ instances, ∃ name,
    bound.bindings.find? name = some (.input placeholder)

/-- No two placeholders of the instances share a name with different types. -/
def Agreeing (instances : List (Instance σ)) : Prop :=
  ∀ left right, Wired instances left → Wired instances right →
    left.name = right.name → left.type = right.type

namespace Instance

@[simp] theorem mem_inputs_iff (bound : Instance σ) (placeholder : SuiteInput) :
    placeholder ∈ bound.inputs ↔
      ∃ name, bound.bindings.find? name = some (.input placeholder) := by
  constructor
  · intro member
    obtain ⟨⟨name, binding⟩, entry, wired⟩ := List.mem_filterMap.mp member
    cases binding with
    | value content => simp at wired
    | input other =>
        obtain rfl : other = placeholder := by simpa using wired
        exact ⟨name, (NameTable.mem_entries_iff _ _ _).mp entry⟩
  · intro ⟨name, found⟩
    exact List.mem_filterMap.mpr
      ⟨(name, .input placeholder),
        (NameTable.mem_entries_iff _ _ _).mpr found, rfl⟩

end Instance

@[simp] theorem mem_flatMap_inputs_iff
    (instances : List (Instance σ)) (placeholder : SuiteInput) :
    placeholder ∈ instances.flatMap Instance.inputs ↔
      Wired instances placeholder := by
  simp [Wired]

namespace Resolution

/-- Collecting keeps what is known and adds what is new; it ends only when no
reference disagrees with the first one of its name. -/
theorem collectFrom_eq_ok
    {known references inputs : List SuiteInput}
    (collected : collectFrom known references = .ok inputs) :
    (∀ input, input ∈ inputs ↔ input ∈ known ∨ input ∈ references) ∧
      ((known.map (·.name)).Nodup → (inputs.map (·.name)).Nodup) := by
  induction references generalizing known with
  | nil =>
      obtain rfl : known = inputs := by simpa [collectFrom] using collected
      simp
  | cons reference rest induction =>
      cases found : known.find? (·.name == reference.name) with
      | none =>
          have absent : reference.name ∉ known.map (·.name) := by
            intro member
            obtain ⟨input, inKnown, same⟩ := List.mem_map.mp member
            simpa [same] using List.find?_eq_none.mp found input inKnown
          have extended :
              collectFrom (known ++ [reference]) rest = .ok inputs := by
            simpa [collectFrom, found] using collected
          obtain ⟨members, distinct⟩ := induction extended
          refine ⟨?_, ?_⟩
          · intro input
            rw [members, List.mem_append, List.mem_singleton, List.mem_cons,
              or_assoc]
          · intro knownDistinct
            apply distinct
            rw [List.map_append, List.nodup_append]
            refine ⟨knownDistinct, by simp, ?_⟩
            intro name inKnown other isReference same
            obtain rfl : other = reference.name := by simpa using isReference
            exact absent (same ▸ inKnown)
      | some first =>
          have inKnown : first ∈ known := List.mem_of_find?_eq_some found
          have sameName : first.name = reference.name := by
            simpa using List.find?_some found
          by_cases sameType : first.type = reference.type
          · obtain rfl : first = reference := by
              cases first
              cases reference
              simp_all
            have continued : collectFrom known rest = .ok inputs := by
              simpa [collectFrom, found] using collected
            obtain ⟨members, distinct⟩ := induction continued
            refine ⟨?_, distinct⟩
            intro input
            rw [members, List.mem_cons]
            constructor
            · rintro (present | later)
              · exact Or.inl present
              · exact Or.inr (Or.inr later)
            · rintro (present | rfl | later)
              · exact Or.inl present
              · exact Or.inl inKnown
              · exact Or.inr later
          · simp [collectFrom, found, sameType] at collected

/-- The only way to fail names two references that disagree. -/
theorem collectFrom_eq_error
    {known references : List SuiteInput} {error : BindingError}
    (failed : collectFrom known references = .error error) :
    ∃ name first second, error = .conflictingInput name first second ∧
      first ≠ second ∧
      ⟨name, first⟩ ∈ known ++ references ∧ ⟨name, second⟩ ∈ references := by
  induction references generalizing known with
  | nil => simp [collectFrom] at failed
  | cons reference rest induction =>
      cases found : known.find? (·.name == reference.name) with
      | none =>
          have extended :
              collectFrom (known ++ [reference]) rest = .error error := by
            simpa [collectFrom, found] using failed
          obtain ⟨name, first, second, shape, different, before, later⟩ :=
            induction extended
          refine ⟨name, first, second, shape, different, ?_,
            List.mem_cons_of_mem _ later⟩
          simpa using before
      | some first =>
          have inKnown : first ∈ known := List.mem_of_find?_eq_some found
          have sameName : first.name = reference.name := by
            simpa using List.find?_some found
          by_cases sameType : first.type = reference.type
          · have continued : collectFrom known rest = .error error := by
              simpa [collectFrom, found, sameType] using failed
            obtain ⟨name, first, second, shape, different, before, later⟩ :=
              induction continued
            refine ⟨name, first, second, shape, different, ?_,
              List.mem_cons_of_mem _ later⟩
            rcases List.mem_append.mp before with present | after
            · exact List.mem_append_left _ present
            · exact List.mem_append_right _ (List.mem_cons_of_mem _ after)
          · refine ⟨reference.name, first.type, reference.type, ?_, sameType,
              ?_, List.mem_cons_self⟩
            · simpa [collectFrom, found, sameType, eq_comm] using failed
            · rw [← sameName]
              exact List.mem_append_left _ inKnown

theorem collectInputs_eq_ok
    {instances : List (Instance σ)} {inputs : List SuiteInput}
    (collected : collectInputs instances = .ok inputs) :
    ∀ input, input ∈ inputs ↔ Wired instances input := by
  intro input
  rw [(collectFrom_eq_ok collected).1, mem_flatMap_inputs_iff]
  simp

theorem collectInputs_eq_error
    {instances : List (Instance σ)} {error : BindingError}
    (failed : collectInputs instances = .error error) :
    (∃ name first second, error = .conflictingInput name first second) ∧
      ¬Agreeing instances := by
  obtain ⟨name, first, second, shape, different, before, later⟩ :=
    collectFrom_eq_error failed
  rw [List.nil_append] at before
  refine ⟨⟨name, first, second, shape⟩, ?_⟩
  intro agreeing
  exact different
    (agreeing ⟨name, first⟩ ⟨name, second⟩
      ((mem_flatMap_inputs_iff instances _).mp before)
      ((mem_flatMap_inputs_iff instances _).mp later) rfl)

theorem collectInputs_of_agreeing
    {instances : List (Instance σ)} (agreeing : Agreeing instances) :
    ∃ inputs, collectInputs instances = .ok inputs := by
  cases collected : collectInputs instances with
  | ok inputs => exact ⟨inputs, rfl⟩
  | error error =>
      have disagreeing := (collectInputs_eq_error collected).2
      exact absurd agreeing disagreeing

/-- Collected inputs are distinct by name, so their references agree. -/
theorem agreeing_of_collectInputs
    {instances : List (Instance σ)} {inputs : List SuiteInput}
    (collected : collectInputs instances = .ok inputs) :
    Agreeing instances := by
  have distinct : (inputs.map (·.name)).Nodup :=
    (collectFrom_eq_ok collected).2 List.nodup_nil
  intro left right leftWired rightWired sameName
  have leftMember := (collectInputs_eq_ok collected left).mpr leftWired
  have rightMember := (collectInputs_eq_ok collected right).mpr rightWired
  have same : left = right :=
    List.inj_on_of_nodup_map distinct leftMember rightMember sameName
  rw [same]

/-- Supply one input, if the globals have a value for it. -/
def supplyInput (globals supplied : Arguments) (input : SuiteInput) : Arguments :=
  match globals.find? input.name with
  | some value => supplied.insert input.name value
  | none => supplied

theorem suppliedInputs_eq_foldl (inputs : List SuiteInput) (globals : Arguments) :
    suppliedInputs inputs globals = inputs.foldl (supplyInput globals) .empty :=
  rfl

theorem find?_supplyInput
    (globals supplied : Arguments) (input : SuiteInput) (name : String) :
    (supplyInput globals supplied input).find? name =
      if name = input.name then
        (globals.find? name).or (supplied.find? name)
      else supplied.find? name := by
  unfold supplyInput
  cases given : globals.find? input.name with
  | none =>
      by_cases same : name = input.name
      · simp [same, given]
      · simp [same]
  | some value =>
      by_cases same : name = input.name
      · simp [same, given]
      · simp [same, Ne.symm same]

private theorem find?_foldl_supplyInput
    (inputs : List SuiteInput) (globals supplied : Arguments) (name : String) :
    (inputs.foldl (supplyInput globals) supplied).find? name =
      if name ∈ inputs.map (·.name) then
        (globals.find? name).or (supplied.find? name)
      else supplied.find? name := by
  induction inputs generalizing supplied with
  | nil => simp
  | cons input rest induction =>
      simp only [List.foldl_cons, induction, List.map_cons, List.mem_cons,
        find?_supplyInput]
      by_cases first : name = input.name
      · cases given : globals.find? name <;> simp [first]
      · simp [first]

/-- Only referenced names are supplied, and with the value of the globals. -/
theorem find?_suppliedInputs
    (inputs : List SuiteInput) (globals : Arguments) (name : String) :
    (suppliedInputs inputs globals).find? name =
      if name ∈ inputs.map (·.name) then globals.find? name else none := by
  simp [suppliedInputs_eq_foldl, find?_foldl_supplyInput]

/-- A placeholder of an instance has the value of the global of its name. -/
theorem find?_suppliedInputs_of_wired
    {instances : List (Instance σ)} {inputs : List SuiteInput}
    (collected : collectInputs instances = .ok inputs)
    {placeholder : SuiteInput} (wired : Wired instances placeholder)
    (globals : Arguments) :
    (suppliedInputs inputs globals).find? placeholder.name =
      globals.find? placeholder.name := by
  have member : placeholder.name ∈ inputs.map (·.name) :=
    List.mem_map_of_mem ((collectInputs_eq_ok collected placeholder).mpr wired)
  rw [find?_suppliedInputs, if_pos member]

end Resolution

end Assay
