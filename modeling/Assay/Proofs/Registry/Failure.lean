import Assay.Proofs.Registry.Binding
import Assay.Proofs.Registry.Upload

/-!
# Failing operations of a registry

Binding writes an entry before it compares, and saving calls the store before it
records the version.  Neither leaves anything behind when it fails: a definition
that has just been written cannot differ from itself, and an entry without a
version takes any version.  So an operation fails for a reason that was there
before it wrote anything.
-/

namespace Assay

variable {σ τ : Type}

namespace RegistryOperation

/-- What an operation fails with. -/
inductive Failure where
  | definition (error : DefinitionError)
  | store (error : StoreError)
  | call (failure : CallFailure)

/-- The operation ends with a failure. -/
inductive Fails (registry : Registry) (state : τ) :
    RegistryOperation σ τ → Failure → Prop where
  | register {declaration : Declaration} {error : DefinitionError}
      (failed : (registry.register declaration).1 = .error error) :
      Fails registry state (.register declaration) (.definition error)
  | bind {definition : Definition σ} {error : DefinitionError}
      (failed : (definition.bind registry).1 = .error error) :
      Fails registry state (.bind definition) (.definition error)
  | recordVersion {identity : Identity} {version : Version} {error : StoreError}
      (failed : (registry.recordVersion identity version).1 = .error error) :
      Fails registry state (.recordVersion identity version) (.store error)
  | load {store : DefinitionStore τ} {identity : Identity} {failure : CallFailure}
      (failed : (registry.load store identity state).1 = .error failure) :
      Fails registry state (.load store identity) (.call failure)
  | save {store : DefinitionStore τ} {identity : Identity} {payload : Payload}
      {failure : CallFailure}
      (failed : (registry.save store identity payload state).1 = .error failure) :
      Fails registry state (.save store identity payload) (.call failure)
  | upload {bound : Instance σ} {store : DefinitionStore τ} {failure : CallFailure}
      (failed : (bound.upload store registry state).1 = .error failure) :
      Fails registry state (.upload bound store) (.call failure)

/-- Why an operation fails, in terms of the declaration, of what the registry has
and of what the store answers. -/
inductive Fault (registry : Registry) (state : τ) :
    RegistryOperation σ τ → Failure → Prop where
  | malformed {declaration : Declaration} {error : DefinitionError}
      (rejected : declaration.toMetadata = .error error) :
      Fault registry state (.register declaration) (.definition error)
  | malformedDefinition {definition : Definition σ} {error : DefinitionError}
      (rejected : definition.declaration.toMetadata = .error error) :
      Fault registry state (.bind definition) (.definition error)
  | conflict {definition : Definition σ} {candidate : Metadata}
      (accepted : definition.declaration.toMetadata = .ok candidate)
      (noRoom : ¬registry.HasRoomFor candidate) :
      Fault registry state (.bind definition)
        (.definition
          (.conflict candidate.identity candidate.moduleName candidate.name))
  | unknownVersion {identity : Identity} {version : Version}
      (unknown : registry.find? identity = none) :
      Fault registry state (.recordVersion identity version)
        (.store (.notFound identity.text))
  | otherVersion {identity : Identity} {registered version : Version}
      (known : registry.version? identity = some registered)
      (different : registered ≠ version) :
      Fault registry state (.recordVersion identity version)
        (.store (.versionConflict identity registered version))
  | loadCall {store : DefinitionStore τ} {identity : Identity} {failure : CallFailure}
      (unversioned : registry.version? identity = none)
      (failed : (store.load identity state).1 = .error failure) :
      Fault registry state (.load store identity) (.call failure)
  | unknown {store : DefinitionStore τ} {identity : Identity} {payload : Payload}
      (unknown : registry.find? identity = none) :
      Fault registry state (.save store identity payload)
        (.call (.refused (.notFound identity.text)))
  | saveCall {store : DefinitionStore τ} {identity : Identity} {payload : Payload}
      {known : Metadata} {failure : CallFailure}
      (found : registry.find? identity = some known)
      (unversioned : known.version = none)
      (failed : (store.save known payload state).1 = .error failure) :
      Fault registry state (.save store identity payload) (.call failure)
  | uploadCall {bound : Instance σ} {store : DefinitionStore τ} {failure : CallFailure}
      (unversioned : (bound.entryIn registry).version = none)
      (failed : (store.save (bound.entryIn registry) bound.payload state).1 =
        .error failure) :
      Fault registry state (.upload bound store) (.call failure)

/-- The registry that an operation starts from: an upload gives its instance an
entry first. -/
def basis : RegistryOperation σ τ → Registry → Registry
  | .upload bound _, registry => bound.enrolledIn registry
  | _, registry => registry

end RegistryOperation

/-! ## Registration -/

theorem Registry.register_of_rejected
    {declaration : Declaration} {error : DefinitionError}
    (rejected : declaration.toMetadata = .error error) (registry : Registry) :
    registry.register declaration = (.error error, registry) := by
  rw [register, rejected]

theorem Registry.register_eq_error_iff
    {declaration : Declaration} {error : DefinitionError} {registry : Registry} :
    (registry.register declaration).1 = .error error ↔
      declaration.toMetadata = .error error := by
  constructor
  · intro failed
    cases outcome : declaration.toMetadata with
    | error other =>
        rw [register_of_rejected outcome] at failed
        exact failed
    | ok candidate => simp [register, outcome] at failed
  · intro rejected
    rw [register_of_rejected rejected]

/-! ## Binding -/

namespace Definition

variable {definition : Definition σ} {registry : Registry} {candidate : Metadata}
  {error : DefinitionError}

theorem bind_of_rejected
    (rejected : definition.declaration.toMetadata = .error error) (registry : Registry) :
    definition.bind registry = (.error error, registry) := by
  rw [bind, rejected]

/-- A definition that is refused is not written: there is an entry already. -/
theorem bind_keeps_of_not_hasRoomFor
    (accepted : definition.declaration.toMetadata = .ok candidate)
    (noRoom : ¬registry.HasRoomFor candidate) :
    (definition.bind registry).2 = registry := by
  cases found : registry.find? candidate.identity with
  | none => exact absurd (.inl found) noRoom
  | some existing =>
      simp only [bind, accepted, Registry.insertFirst, found]
      split <;> rfl

end Definition

/-! ## Versions -/

namespace Registry

variable {registry : Registry} {identity : Identity} {known : Metadata}
  {registered version : Version} {error : StoreError}

theorem recordVersion_of_unknown
    (unknown : registry.find? identity = none) (version : Version) :
    registry.recordVersion identity version =
      (.error (.notFound identity.text), registry) := by
  rw [recordVersion, unknown]

theorem recordVersion_of_version?
    (known : registry.version? identity = some registered) (version : Version) :
    ∃ metadata, registry.find? identity = some metadata ∧
      registry.recordVersion identity version =
        (if registered = version then .ok metadata
          else .error (.versionConflict identity registered version), registry) := by
  obtain ⟨metadata, found, versioned⟩ := find?_of_version? known
  refine ⟨metadata, found, ?_⟩
  simp only [recordVersion, found, versioned]
  split <;> rfl

theorem recordVersion_eq_error_iff :
    (registry.recordVersion identity version).1 = .error error ↔
      registry.find? identity = none ∧ error = .notFound identity.text ∨
        ∃ registered, registry.version? identity = some registered ∧
          registered ≠ version ∧
          error = .versionConflict identity registered version := by
  cases found : registry.find? identity with
  | none =>
      have unversioned : registry.version? identity = none := by
        rw [version?, found, Option.bind_none]
      rw [recordVersion_of_unknown found]
      simp [unversioned, eq_comm]
  | some known =>
      rw [version?_of_find? found]
      cases versioned : known.version with
      | none =>
          rw [recordVersion_of_unversioned found versioned]
          simp
      | some registered =>
          obtain ⟨metadata, -, outcome⟩ := recordVersion_of_version?
            ((version?_of_find? found).trans versioned) version
          rw [outcome]
          by_cases same : registered = version
          · simp [same]
          · simp [same, Ne.symm same, eq_comm]

/-! ## Calls of a store -/

variable {store : DefinitionStore τ} {payload : Payload} {state later : τ}
  {failure : CallFailure}

theorem load_of_failed
    (unversioned : registry.version? identity = none)
    (failed : (store.load identity state).1 = .error failure) :
    registry.load store identity state =
      (.error failure, registry, (store.load identity state).2) := by
  rw [version?] at unversioned
  have answered : store.load identity state =
      (.error failure, (store.load identity state).2) := Prod.ext failed rfl
  simp only [load, unversioned, Option.isSome_none, Bool.false_eq_true, if_false]
  rw [answered]

theorem load_eq_error_iff :
    (registry.load store identity state).1 = .error failure ↔
      registry.version? identity = none ∧
        (store.load identity state).1 = .error failure := by
  unfold load version?
  dsimp only
  cases versioned : (registry.find? identity).bind (·.version) with
  | some version => simp
  | none =>
      rcases answered : store.load identity state with ⟨other | stored, reached⟩
      · simp
      · cases stored <;> simp

theorem save_of_unknown
    (unknown : registry.find? identity = none) (store : DefinitionStore τ)
    (payload : Payload) (state : τ) :
    registry.save store identity payload state =
      (.error (.refused (.notFound identity.text)), registry, state) := by
  rw [save, unknown]

theorem save_of_failed
    (found : registry.find? identity = some known) (unversioned : known.version = none)
    (failed : (store.save known payload state).1 = .error failure) :
    registry.save store identity payload state =
      (.error failure, registry, (store.save known payload state).2) := by
  have answered : store.save known payload state =
      (.error failure, (store.save known payload state).2) := Prod.ext failed rfl
  rw [save_eq_of_unversioned found unversioned, answered]

theorem save_eq_error_iff :
    (registry.save store identity payload state).1 = .error failure ↔
      registry.find? identity = none ∧ failure = .refused (.notFound identity.text) ∨
        ∃ known, registry.find? identity = some known ∧ known.version = none ∧
          (store.save known payload state).1 = .error failure := by
  cases found : registry.find? identity with
  | none =>
      rw [save_of_unknown found]
      simp [eq_comm]
  | some known =>
      cases versioned : known.version with
      | some version =>
          rw [save_of_version? ((version?_of_find? found).trans versioned)]
          simp [versioned]
      | none =>
          rw [save_eq_of_unversioned found versioned]
          rcases answered : store.save known payload state with ⟨other | version, later⟩
          · simp [versioned, answered]
          · simp [versioned, answered]

/-- A save that got a version from its store answers it and has recorded it. -/
theorem save_of_saved
    {answer : Except CallFailure Version} {next : Registry}
    {transcript : List StoreExchange} {saved : Metadata} {sent : Payload}
    (outcome : registry.save store.transcribed identity payload (state, []) =
      (answer, next, (later, transcript)))
    (called : .save saved sent (.ok version) ∈ transcript) :
    registry.find? identity = some saved ∧ answer = .ok version ∧
      next = registry.put identity (saved.withVersion version) := by
  cases found : registry.find? identity with
  | none =>
      rw [save_of_unknown found] at outcome
      simp only [Prod.mk.injEq] at outcome
      obtain ⟨-, -, -, rfl⟩ := outcome
      contradiction
  | some known =>
      cases versioned : known.version with
      | some registered =>
          rw [save_of_version? ((version?_of_find? found).trans versioned)] at outcome
          simp only [Prod.mk.injEq] at outcome
          obtain ⟨-, -, -, rfl⟩ := outcome
          contradiction
      | none =>
          rw [save_eq_of_unversioned found versioned] at outcome
          rcases answered : store.save known payload state with ⟨failure | given, reached⟩
          · simp only [DefinitionStore.save_transcribed answered, Prod.mk.injEq] at outcome
            obtain ⟨-, -, -, rfl⟩ := outcome
            simp at called
          · simp only [DefinitionStore.save_transcribed answered, Prod.mk.injEq] at outcome
            obtain ⟨rfl, rfl, -, rfl⟩ := outcome
            simp only [List.nil_append, List.mem_singleton, StoreExchange.save.injEq,
              Except.ok.injEq] at called
            obtain ⟨rfl, -, rfl⟩ := called
            exact ⟨rfl, rfl, rfl⟩

end Registry

/-! ## Any operation -/

namespace RegistryOperation

variable {registry : Registry} {state : τ} {operation : RegistryOperation σ τ}
  {failure : Failure}

theorem Fault.fails (fault : operation.Fault registry state failure) :
    operation.Fails registry state failure := by
  cases fault with
  | malformed rejected => exact .register (Registry.register_eq_error_iff.mpr rejected)
  | malformedDefinition rejected =>
      exact .bind (by rw [Definition.bind_of_rejected rejected])
  | conflict accepted noRoom =>
      exact .bind (Definition.bind_of_not_hasRoomFor accepted noRoom)
  | unknownVersion unknown =>
      exact .recordVersion (Registry.recordVersion_eq_error_iff.mpr (.inl ⟨unknown, rfl⟩))
  | otherVersion known different =>
      exact .recordVersion
        (Registry.recordVersion_eq_error_iff.mpr (.inr ⟨_, known, different, rfl⟩))
  | loadCall unversioned failed =>
      exact .load (Registry.load_eq_error_iff.mpr ⟨unversioned, failed⟩)
  | unknown unknown => exact .save (Registry.save_eq_error_iff.mpr (.inl ⟨unknown, rfl⟩))
  | saveCall found unversioned failed =>
      exact .save (Registry.save_eq_error_iff.mpr (.inr ⟨_, found, unversioned, failed⟩))
  | @uploadCall bound store _ unversioned failed =>
      have answered : store.save (bound.entryIn registry) bound.payload state =
          (.error _, _) := Prod.ext failed rfl
      exact .upload
        (by rw [Instance.upload_eq_error_iff.mpr ⟨unversioned, answered, rfl⟩])

/-- There is a reason for every failure. -/
theorem Fails.fault (fails : operation.Fails registry state failure) :
    operation.Fault registry state failure := by
  cases fails with
  | register failed => exact .malformed (Registry.register_eq_error_iff.mp failed)
  | @bind definition error failed =>
      cases outcome : definition.declaration.toMetadata with
      | error other =>
          rw [Definition.bind_of_rejected outcome] at failed
          obtain rfl := Except.error.inj failed
          exact .malformedDefinition outcome
      | ok candidate =>
          by_cases room : registry.HasRoomFor candidate
          · obtain ⟨_, success, -⟩ := Definition.bind_of_hasRoomFor outcome room
            rw [success] at failed
            contradiction
          · rw [Definition.bind_of_not_hasRoomFor outcome room] at failed
            obtain rfl := Except.error.inj failed
            exact .conflict outcome room
  | recordVersion failed =>
      rcases Registry.recordVersion_eq_error_iff.mp failed with
        ⟨unknown, rfl⟩ | ⟨registered, known, different, rfl⟩
      · exact .unknownVersion unknown
      · exact .otherVersion known different
  | load failed =>
      obtain ⟨unversioned, failed⟩ := Registry.load_eq_error_iff.mp failed
      exact .loadCall unversioned failed
  | save failed =>
      rcases Registry.save_eq_error_iff.mp failed with
        ⟨unknown, rfl⟩ | ⟨known, found, unversioned, failed⟩
      · exact .unknown unknown
      · exact .saveCall found unversioned failed
  | @upload bound store failure failed =>
      have outcome : bound.upload store registry state = (.error failure, _, _) :=
        Prod.ext failed rfl
      obtain ⟨unversioned, answered, -⟩ := Instance.upload_eq_error_iff.mp outcome
      exact .uploadCall unversioned (by rw [answered])

theorem fails_iff_fault :
    operation.Fails registry state failure ↔ operation.Fault registry state failure :=
  ⟨Fails.fault, Fault.fails⟩

/-- A failing operation leaves the registry that it starts from. -/
theorem Fault.perform_eq (fault : operation.Fault registry state failure) :
    (operation.perform registry state).1 = operation.basis registry := by
  cases fault with
  | malformed rejected => simp only [perform, basis, Registry.register_of_rejected rejected]
  | malformedDefinition rejected =>
      simp only [perform, basis, Definition.bind_of_rejected rejected]
  | conflict accepted noRoom => exact Definition.bind_keeps_of_not_hasRoomFor accepted noRoom
  | unknownVersion unknown =>
      simp only [perform, basis, Registry.recordVersion_of_unknown unknown]
  | @otherVersion _ _ version known different =>
      obtain ⟨_, -, outcome⟩ := Registry.recordVersion_of_version? known version
      simp only [perform, basis, outcome]
  | loadCall unversioned failed =>
      simp only [perform, basis, Registry.load_of_failed unversioned failed]
  | unknown unknown => simp only [perform, basis, Registry.save_of_unknown unknown]
  | saveCall found unversioned failed =>
      simp only [perform, basis, Registry.save_of_failed found unversioned failed]
  | @uploadCall bound store failure unversioned failed =>
      have answered : store.save (bound.entryIn registry) bound.payload state =
          (.error failure, _) := Prod.ext failed rfl
      simp only [perform, basis,
        Instance.upload_eq_error_iff.mpr ⟨unversioned, answered, rfl⟩]

/-- Whatever a registry holds: an operation fails exactly for one of the reasons
above, and leaves the registry that it starts from, which only for an upload is
not the registry itself.  A version is refused exactly for an identity that is
unknown or has another version.  A save that has got a version from its store
answers this version, and the entry has it. -/
theorem failing_operations_write_nothing (registry : Registry) (state : τ) :
    (∀ (operation : RegistryOperation σ τ) (failure : Failure),
        (operation.Fails registry state failure ↔
          operation.Fault registry state failure) ∧
          (operation.Fails registry state failure →
            (operation.perform registry state).1 = operation.basis registry)) ∧
      (∀ (identity : Identity) (version : Version) (error : StoreError),
        (registry.recordVersion identity version).1 = .error error ↔
          registry.find? identity = none ∧ error = .notFound identity.text ∨
            ∃ registered, registry.version? identity = some registered ∧
              registered ≠ version ∧
              error = .versionConflict identity registered version) ∧
      ∀ (store : DefinitionStore τ) (identity : Identity) (payload : Payload)
          (answer : Except CallFailure Version) (next : Registry) (later : τ)
          (transcript : List StoreExchange),
        registry.save store.transcribed identity payload (state, []) =
            (answer, next, (later, transcript)) →
          ∀ saved sent version, .save saved sent (.ok version) ∈ transcript →
            answer = .ok version ∧
              registry.find? identity = some saved ∧
              next.find? identity = some (saved.withVersion version) ∧
              ∀ other, other ≠ identity → next.find? other = registry.find? other := by
  refine ⟨fun operation failure => ⟨fails_iff_fault, fun fails => fails.fault.perform_eq⟩,
    fun identity version error => Registry.recordVersion_eq_error_iff, ?_⟩
  intro store identity payload answer next later transcript outcome saved sent version called
  obtain ⟨found, answered, rfl⟩ := Registry.save_of_saved outcome called
  refine ⟨answered, found, by simp, ?_⟩
  intro other different
  simp [Ne.symm different]

/-- A save of `atMost` that times out changes nothing, and one that is answered
records the answer. -/
theorem save_atMost_after_timeout :
    let entry := atMost.declaration.metadata
    let registry := Registry.empty.put entry.identity entry
    let save : RegistryOperation Nat (List (Except CallFailure Version)) :=
      .save .scripted entry.identity .empty
    let given : List (Except CallFailure Version) := [.ok 7]
    save.Fails registry [] (.call (.refused .timeout)) ∧
      (save.perform registry []).1 = registry ∧
      ∃ next, (save.perform registry given).1 = next ∧
        next.find? entry.identity = some (entry.withVersion 7) := by
  intro entry registry save given
  have found : registry.find? entry.identity = some entry := by simp [registry]
  have timedOut : save.Fault registry [] (.call (.refused .timeout)) :=
    .saveCall found rfl rfl
  obtain ⟨operations, -, -⟩ :=
    failing_operations_write_nothing (σ := Nat) registry
      ([] : List (Except CallFailure Version))
  obtain ⟨-, -, saves⟩ := failing_operations_write_nothing (σ := Nat) registry given
  obtain ⟨failing, keeps⟩ := operations save _
  have fails := failing.mpr timedOut
  have outcome : registry.save DefinitionStore.scripted.transcribed entry.identity .empty
      (given, []) =
        (.ok 7, registry.put entry.identity (entry.withVersion 7),
          ([], [.save entry .empty (.ok 7)])) := by
    rw [Registry.save_eq_of_unversioned found rfl]
    rfl
  obtain ⟨-, -, recorded, -⟩ :=
    saves .scripted entry.identity .empty _ _ _ _ outcome entry .empty 7 List.mem_cons_self
  refine ⟨fails, keeps fails, _, ?_, recorded⟩
  simp only [save, perform]
  rw [Registry.save_eq_of_unversioned found rfl]
  rfl

end RegistryOperation

end Assay
