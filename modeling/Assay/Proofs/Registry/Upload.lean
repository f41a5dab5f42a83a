import Assay.Proofs.Registry.History
import Assay.Proofs.Store.Transcript

/-!
# Single uploads

An upload goes by the entry of the registry or, where there is none, by the
metadata of the instance, which then becomes the entry.  It saves exactly if that
entry has no version, and the entry has one afterwards.
-/

namespace Assay

variable {σ τ : Type}

namespace Registry

/-- The version that is known for an identity. -/
def version? (registry : Registry) (identity : Identity) : Option Version :=
  (registry.find? identity).bind (·.version)

theorem version?_of_find?
    {registry : Registry} {identity : Identity} {known : Metadata}
    (found : registry.find? identity = some known) :
    registry.version? identity = known.version := by
  rw [version?, found, Option.bind_some]

theorem find?_of_version?
    {registry : Registry} {identity : Identity} {version : Version}
    (known : registry.version? identity = some version) :
    ∃ metadata, registry.find? identity = some metadata ∧
      metadata.version = some version :=
  Option.bind_eq_some_iff.mp known

/-- A known version is answered without a call of the store. -/
theorem save_of_version?
    {registry : Registry} {identity : Identity} {version : Version}
    (known : registry.version? identity = some version)
    (store : DefinitionStore τ) (payload : Payload) (state : τ) :
    registry.save store identity payload state = (.ok version, registry, state) := by
  obtain ⟨metadata, found, versioned⟩ := find?_of_version? known
  simp only [save, found, versioned]

end Registry

namespace Instance

variable {bound : Instance σ} {store : DefinitionStore τ} {registry next : Registry}
  {state later : τ} {version : Version} {saves : List SavedVersion} {identity : Identity}

/-- The metadata that an upload of the instance goes by. -/
def entryIn (bound : Instance σ) (registry : Registry) : Metadata :=
  (registry.find? bound.identity).getD bound.metadata

/-- The registry in which the instance has an entry. -/
def enrolledIn (bound : Instance σ) (registry : Registry) : Registry :=
  if registry.contains bound.identity then registry
  else registry.put bound.identity bound.metadata

def payload (bound : Instance σ) : Payload := bound.metadata.code.toByteArray

@[simp] theorem find?_enrolledIn (bound : Instance σ) (registry : Registry) :
    (bound.enrolledIn registry).find? bound.identity = some (bound.entryIn registry) := by
  cases found : registry.find? bound.identity with
  | none => simp [enrolledIn, entryIn, Registry.contains, found]
  | some known => simp [enrolledIn, entryIn, Registry.contains, found]

@[simp] theorem find?_enrolledIn_of_ne
    (bound : Instance σ) (registry : Registry) (different : bound.identity ≠ identity) :
    (bound.enrolledIn registry).find? identity = registry.find? identity := by
  unfold enrolledIn
  split
  · rfl
  · simp [different]

theorem enrolledIn_of_find?
    {known : Metadata} (found : registry.find? bound.identity = some known) :
    bound.enrolledIn registry = registry := by
  simp [enrolledIn, Registry.contains, found]

theorem version?_enrolledIn
    (bound : Instance σ) (known : registry.version? identity = some version) :
    (bound.enrolledIn registry).version? identity = some version := by
  by_cases same : bound.identity = identity
  · subst same
    obtain ⟨metadata, found, _⟩ := Registry.find?_of_version? known
    rw [bound.enrolledIn_of_find? found, known]
  · simpa [Registry.version?, same] using known

theorem identity_entryIn (bound : Instance σ) (tidy : registry.Tidy) :
    (bound.entryIn registry).identity = bound.identity := by
  unfold entryIn
  cases found : registry.find? bound.identity with
  | none => rfl
  | some known => exact tidy.identity_of_find? found

theorem tidy_enrolledIn (bound : Instance σ) (tidy : registry.Tidy) :
    (bound.enrolledIn registry).Tidy := by
  unfold enrolledIn
  split
  · exact tidy
  · exact tidy.put bound.metadata

theorem upload_eq
    (bound : Instance σ) (store : DefinitionStore τ) (registry : Registry) (state : τ) :
    bound.upload store registry state =
      match (bound.entryIn registry).version with
      | some version => (.ok version, bound.enrolledIn registry, state)
      | none =>
          match store.save (bound.entryIn registry) bound.payload state with
          | (.error failure, later) => (.error failure, bound.enrolledIn registry, later)
          | (.ok version, later) =>
              (.ok version,
                (bound.enrolledIn registry).put bound.identity
                  ((bound.entryIn registry).withVersion version),
                later) := by
  have enrolled :
      (if registry.contains bound.identity then registry
        else (registry.adopt bound.metadata).2) = bound.enrolledIn registry := by
    cases found : registry.find? bound.identity with
    | none =>
        rw [Registry.adopt_of_unknown found]
        simp only [enrolledIn, Registry.contains, found]
        rfl
    | some known => simp only [enrolledIn, Registry.contains, found, Option.isSome_some, if_true]
  have found := bound.find?_enrolledIn registry
  simp only [upload, enrolled]
  cases versioned : (bound.entryIn registry).version with
  | some version =>
      exact Registry.save_of_version? ((Registry.version?_of_find? found).trans versioned) ..
  | none =>
      rw [Registry.save_eq_of_unversioned found versioned]
      rcases answered : store.save (bound.entryIn registry)
          bound.metadata.code.toByteArray state with ⟨failure | version, later⟩
      · simp only [payload, answered]
      · simp only [payload, answered]

/-- An instance whose version is known is not saved again. -/
theorem upload_of_version?
    (known : registry.version? bound.identity = some version)
    (store : DefinitionStore τ) (state : τ) :
    bound.upload store registry state = (.ok version, registry, state) := by
  obtain ⟨metadata, found, versioned⟩ := Registry.find?_of_version? known
  simp only [upload_eq, entryIn, found, Option.getD_some, versioned, enrolledIn_of_find? found]

/-! ## Uploads that succeed -/

/-- An upload that answers with a version, the save that it took, if it took
one, and the registry and the state that it leaves. -/
inductive Uploads (store : DefinitionStore τ) (bound : Instance σ)
    (registry : Registry) (state : τ) :
    Version → List SavedVersion → Registry → τ → Prop where
  | known {version : Version}
      (versioned : (bound.entryIn registry).version = some version) :
      Uploads store bound registry state version [] (bound.enrolledIn registry) state
  | saved {version : Version} {later : τ}
      (unversioned : (bound.entryIn registry).version = none)
      (answered : store.save (bound.entryIn registry) bound.payload state =
        (.ok version, later)) :
      Uploads store bound registry state version
        [⟨bound.entryIn registry, bound.payload, version⟩]
        ((bound.enrolledIn registry).put bound.identity
          ((bound.entryIn registry).withVersion version))
        later

theorem upload_eq_ok
    (uploaded : bound.upload store registry state = (.ok version, next, later)) :
    ∃ saves, bound.Uploads store registry state version saves next later := by
  rw [upload_eq] at uploaded
  cases versioned : (bound.entryIn registry).version with
  | some known =>
      simp only [versioned, Prod.mk.injEq, Except.ok.injEq] at uploaded
      obtain ⟨rfl, rfl, rfl⟩ := uploaded
      exact ⟨[], .known versioned⟩
  | none =>
      simp only [versioned] at uploaded
      rcases answered : store.save (bound.entryIn registry) bound.payload state with
        ⟨failure | given, reached⟩
      · simp [answered] at uploaded
      · simp only [answered, Prod.mk.injEq, Except.ok.injEq] at uploaded
        obtain ⟨rfl, rfl, rfl⟩ := uploaded
        exact ⟨_, .saved versioned answered⟩

/-- An upload fails exactly by a save that fails. -/
theorem upload_eq_error_iff
    {failure : CallFailure} :
    bound.upload store registry state = (.error failure, next, later) ↔
      (bound.entryIn registry).version = none ∧
        store.save (bound.entryIn registry) bound.payload state = (.error failure, later) ∧
        next = bound.enrolledIn registry := by
  rw [upload_eq]
  constructor
  · intro failed
    cases versioned : (bound.entryIn registry).version with
    | some known => simp [versioned] at failed
    | none =>
        simp only [versioned] at failed
        rcases answered : store.save (bound.entryIn registry) bound.payload state with
          ⟨other | given, reached⟩
        · simp only [answered, Prod.mk.injEq, Except.error.injEq] at failed
          obtain ⟨rfl, rfl, rfl⟩ := failed
          exact ⟨rfl, rfl, rfl⟩
        · simp [answered] at failed
  · rintro ⟨unversioned, answered, rfl⟩
    simp only [unversioned, answered]

namespace Uploads

theorem upload
    (uploads : bound.Uploads store registry state version saves next later) :
    bound.upload store registry state = (.ok version, next, later) := by
  rw [upload_eq]
  cases uploads with
  | known versioned => simp only [versioned]
  | saved unversioned answered => simp only [unversioned, answered]

theorem transcribed
    (uploads : bound.Uploads store registry state version saves next later)
    (transcript : List StoreExchange) :
    bound.Uploads store.transcribed registry (state, transcript) version saves next
      (later, transcript ++ saves.map SavedVersion.exchange) := by
  cases uploads with
  | known versioned =>
      rw [List.map_nil, List.append_nil]
      exact .known versioned
  | saved unversioned answered =>
      exact .saved unversioned (DefinitionStore.save_transcribed answered transcript)

theorem tidy
    (uploads : bound.Uploads store registry state version saves next later)
    (tidy : registry.Tidy) : next.Tidy := by
  obtain ⟨_, writes, _⟩ := bound.upload_growsAt store tidy state
  rw [uploads.upload] at writes
  exact writes.tidy tidy

theorem version?_self
    (uploads : bound.Uploads store registry state version saves next later) :
    next.version? bound.identity = some version := by
  cases uploads with
  | known versioned =>
      simpa [Registry.version?] using versioned
  | saved unversioned answered =>
      simp [Registry.version?]

theorem find?_of_ne
    (uploads : bound.Uploads store registry state version saves next later)
    (different : bound.identity ≠ identity) :
    next.find? identity = registry.find? identity := by
  cases uploads with
  | known versioned => simp [different]
  | saved unversioned answered => simp [different]

/-- The version was there before, or it is that of the save. -/
theorem version_cases
    (uploads : bound.Uploads store registry state version saves next later) :
    (bound.entryIn registry).version = some version ∧ saves = [] ∨
      (bound.entryIn registry).version = none ∧
        saves = [⟨bound.entryIn registry, bound.payload, version⟩] := by
  cases uploads with
  | known versioned => exact .inl ⟨versioned, rfl⟩
  | saved unversioned answered => exact .inr ⟨unversioned, rfl⟩

end Uploads

end Instance

end Assay
