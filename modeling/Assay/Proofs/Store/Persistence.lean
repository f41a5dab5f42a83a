import Assay.Proofs.Instance
import Assay.Proofs.Metadata.Portability
import Assay.Proofs.Registry
import Assay.Proofs.Store.Directory.History

/-!
# What becomes of a saved declaration

A registered declaration is saved with the first version.  Another registry gets
it back from the same place exactly if its parameters are portable, which
registration does not ask for.
-/

namespace Assay

/-! ## The folder of a declaration -/

private theorem utf8ByteSize_ofList_le (characters : List Char) :
    (String.ofList characters).utf8ByteSize ≤ 4 * characters.length := by
  induction characters with
  | nil => exact Nat.le_refl 0
  | cons character characters induction =>
      have one := Char.utf8Size_le_four character
      rw [String.ofList_cons, String.utf8ByteSize_append, String.utf8ByteSize_singleton,
        List.length_cons]
      omega

private theorem Path.enterable_of_no_dot
    {characters : List Char} (nonempty : characters ≠ []) (noDot : '.' ∉ characters)
    (noNul : '\x00' ∉ characters) (few : 4 * characters.length ≤ Volume.longestName) :
    Path.Enterable (String.ofList characters) := by
  have differs : ∀ name : String, name = "" ∨ '.' ∈ name.toList →
      String.ofList characters ≠ name := by
    rintro name special rfl
    rw [String.ofList_eq_empty_iff, String.toList_ofList] at special
    exact special.elim nonempty noDot
  refine ⟨?notIdle, differs ".." (.inr (by decide)), ?notLong, ?noNul⟩
  case notIdle =>
    simp only [Path.isIdleName, Bool.or_eq_false_iff, beq_eq_false_iff_ne]
    exact ⟨differs "" (.inl rfl), differs "." (.inr (by decide))⟩
  case notLong => exact Nat.le_trans (utf8ByteSize_ofList_le characters) few
  case noNul =>
    rw [String.toList_ofList]
    exact noNul

namespace Identity

private theorem length_layOut_le (digits : List Char) : (layOut digits).length ≤ 36 := by
  simp only [layOut, List.length_append, List.length_cons, List.length_take, List.length_drop]
  omega

/-- A derived identity is the name of a single folder. -/
theorem enterable_derive (moduleName name : String) :
    Path.Enterable (derive moduleName name).text := by
  have derived : ∀ character ∈ layOut (hexDigits ((Digest.sha256
      (hashedText moduleName name).toByteArray.data.toList).take 16)),
      isDerivedCharacter character = true :=
    isDerivedCharacter_layOut fun _ member => isDerivedCharacter_hexDigits member
  exact Path.enterable_of_no_dot (List.ne_nil_of_mem (dash_mem_layOut _))
    (fun dot => absurd (derived _ dot) (by decide))
    (fun nul => absurd (derived _ nul) (by decide))
    (Nat.le_trans (Nat.mul_le_mul_left 4 (length_layOut_le _)) (by decide))

end Identity

/-! ## Registering, saving and loading -/

namespace Registry

variable {σ : Type} {registry : Registry} {declaration : Declaration} {declared : Metadata}
  {store : DefinitionStore σ} {identity : Identity} {state later : σ}

theorem register_of_new
    (accepted : declaration.toMetadata = .ok declared)
    (new : registry.find? declared.identity = none) :
    registry.register declaration = (.ok declared, registry.put declared.identity declared) := by
  simp only [register, accepted, insertFirst, new]

/-- A registry that knows nothing takes over what the store has. -/
theorem load_empty_eq_ok_iff {found : Metadata} {adopted : Registry} :
    load store identity empty state = (.ok (some found), adopted, later) ↔
      store.load identity state = (.ok (some found), later) ∧
        adopted = empty.put found.identity found := by
  simp only [load, find?_empty, Option.bind_none, Option.isSome_none, Bool.false_eq_true,
    if_false]
  rcases loaded : store.load identity state with ⟨_ | _ | stored, after⟩
  · simp
  · simp
  · simp only [adopt, find?_empty, Prod.mk.injEq, Except.ok.injEq, Option.some.injEq]
    constructor
    · rintro ⟨rfl, rfl, rfl⟩
      exact ⟨⟨rfl, rfl⟩, rfl⟩
    · rintro ⟨⟨rfl, rfl⟩, rfl⟩
      exact ⟨rfl, rfl, rfl⟩

end Registry

namespace Directory

variable {volume : Volume} {root : Path} {home : Location} {registry : Registry}
  {declaration : Declaration} {declared : Metadata}

/-- A definition is there for everybody: a registry that knows nothing loads it
with its version, and the store can be listed. -/
structure Restores {σ : Type} (files : FileSystem σ) (root : Path) (declared : Metadata)
    (version : Version) (state : σ) : Prop where
  loads : ∃ found adopted later,
    Registry.load (store files root) declared.identity .empty state =
        (.ok (some found), adopted, later) ∧
      found.sameDefinition declared = true ∧ found.version = some version
  lists : ∃ listing later, list files root state = (.ok listing, later)

/-- What was saved once is restored exactly if its parameters are portable. -/
theorem Holds.restores_iff
    {payload : Payload} (holds : Holds volume home [(declared, payload)])
    (opens : Opens volume root home) (addresses : Addresses root declared.identity)
    (ordered : ∀ parameter ∈ declared.parameters, parameter.Ordered) :
    Restores Volume.files root declared 1 volume ↔
      ∀ parameter ∈ declared.parameters, parameter.Portable := by
  have latest : Ledger.latest? [(declared, payload)] declared.identity =
      some (declared.withVersion 1) := Ledger.latest?_save [] declared payload
  constructor
  · rintro ⟨⟨found, adopted, later, loaded, same, _⟩, _⟩
    obtain ⟨written, saved, decoded⟩ := holds.decode_of_load opens addresses
      (Registry.load_empty_eq_ok_iff.mp loaded).1
    obtain rfl : declared.withVersion 1 = written := Option.some.inj (latest.symm.trans saved)
    have orderedWritten : ∀ parameter ∈ (declared.withVersion 1).parameters,
        parameter.Ordered := ordered
    have portable := Metadata.portable_of_readText orderedWritten
      (Json.Value.toList_indented (declared.withVersion 1).toJson)
      (readText_of_decodeMetadata decoded) same
    exact portable
  · intro portable
    have survive : ∀ save ∈ [(declared, payload)], Survives save.1 := by
      rw [List.forall_mem_singleton]
      exact survives_of_portable portable
    have reached : ∀ save ∈ [(declared, payload)], Addresses root save.1.identity := by
      rw [List.forall_mem_singleton]
      exact addresses
    have loaded := holds.load_eq opens addresses survive
    rw [latest] at loaded
    obtain ⟨listing, _, listed⟩ := holds.list_eq opens reached survive
    exact ⟨⟨_, _, _, Registry.load_empty_eq_ok_iff.mpr ⟨loaded, rfl⟩,
      Metadata.sameDefinition_symm (declared.sameDefinition_withVersion 1), rfl⟩,
      listing, volume, listed⟩

theorem addresses_of_accepted
    (accepted : declaration.toMetadata = .ok declared)
    (short : (metadataFile (entryFolder root declared.identity)).byteCount ≤ Volume.longestPath) :
    Addresses root declared.identity := by
  obtain ⟨_, rfl⟩ := Declaration.toMetadata_eq_ok accepted
  exact ⟨Identity.enterable_derive declaration.moduleName declaration.name, short⟩

/-- An accepted declaration is registered and saved with the first version in a
place where nothing is. -/
theorem holds_of_accepted
    (accepted : declaration.toMetadata = .ok declared)
    (new : registry.find? declared.identity = none)
    (vacant : Vacant volume home) (opens : Opens volume root home)
    (short : (metadataFile (entryFolder root declared.identity)).byteCount ≤ Volume.longestPath)
    (payload : Payload) :
    ∃ registered saved later,
      registry.register declaration = (.ok declared, registered) ∧
        registered.save (store Volume.files root) declared.identity payload volume =
            (.ok 1, saved, later) ∧
          Holds later home [(declared, payload)] ∧ volume.KeepsFolders later := by
  have addresses := addresses_of_accepted accepted short
  have unversioned : declared.version = none := Declaration.toMetadata_unversioned accepted
  have holds := vacant.holds
  have saved : (store Volume.files root).save declared payload volume = (.ok 1, _) :=
    holds.save_eq opens addresses (List.forall_mem_nil _) payload
  have known := Registry.find?_put_self registry declared.identity declared
  exact ⟨_, _, _, Registry.register_of_new accepted new,
    by rw [Registry.save_eq_of_unversioned known unversioned, saved],
    holds.after_save declared payload, holds.keepsFolders_stored _ _ _⟩

/-- An accepted declaration is registered and saved in a place where nothing is.
It is restored from there exactly if its parameters are portable. -/
theorem save_restores_iff
    (accepted : declaration.toMetadata = .ok declared)
    (new : registry.find? declared.identity = none)
    (vacant : Vacant volume home) (opens : Opens volume root home)
    (short : (metadataFile (entryFolder root declared.identity)).byteCount ≤ Volume.longestPath)
    (ordered : ∀ parameter ∈ declared.parameters, parameter.Ordered)
    (payload : Payload) :
    ∃ registered saved later,
      registry.register declaration = (.ok declared, registered) ∧
        registered.save (store Volume.files root) declared.identity payload volume =
            (.ok 1, saved, later) ∧
          (Restores Volume.files root declared 1 later ↔
            ∀ parameter ∈ declared.parameters, parameter.Portable) := by
  obtain ⟨registered, saved, later, registers, saves, holds, keeps⟩ :=
    holds_of_accepted accepted new vacant opens short payload
  exact ⟨registered, saved, later, registers, saves,
    holds.restores_iff (opens.later keeps) (addresses_of_accepted accepted short) ordered⟩

/-! ## A declaration that is restored and one that is not -/

def workshopPath : Path := ⟨true, ["srv", "store"]⟩

private theorem short_of_declaration (declaration : Declaration) :
    (metadataFile (entryFolder workshopPath declaration.identity)).byteCount ≤
      Volume.longestPath := by
  have name := (Identity.enterable_derive declaration.moduleName declaration.name).notLong
  have folder : (definitionsFolder workshopPath).byteCount = 16 := by decide
  have file : "meta.json".utf8ByteSize = 9 := by decide
  rw [metadataFile, Path.byteCount_enter, entryFolder, Path.byteCount_enter, folder, file]
  rw [Volume.longestName] at name
  rw [Volume.longestPath, Declaration.identity]
  omega

def withinTolerance : Declaration where
  moduleName := "checks.numeric"
  name := "within_tolerance"
  displayName := none
  doc := ""
  moduleDoc := ""
  code := ""
  tags := []
  parameters := Metadata.withinTolerance.parameters
  kind := .function

theorem save_restores_withinTolerance :
    withinTolerance.toMetadata = .ok withinTolerance.metadata ∧
      ∃ registered saved later,
        Registry.empty.register withinTolerance = (.ok withinTolerance.metadata, registered) ∧
          registered.save (store Volume.files workshopPath)
              withinTolerance.identity ⟨#[1]⟩ workshop = (.ok 1, saved, later) ∧
            Restores Volume.files workshopPath withinTolerance.metadata 1 later := by
  have accepted : withinTolerance.toMetadata = .ok withinTolerance.metadata := rfl
  have portable : ∀ parameter ∈ withinTolerance.metadata.parameters, parameter.Portable :=
    Metadata.portable_withinTolerance
  obtain ⟨registered, saved, later, registers, saves, restores⟩ :=
    save_restores_iff accepted (Registry.find?_empty _) vacant_workshop opens_workshop.1
      (short_of_declaration withinTolerance)
      (fun parameter member => (portable parameter member).isOrdered) ⟨#[1]⟩
  exact ⟨accepted, registered, saved, later, registers, saves, restores.mpr portable⟩

/-- A declaration with a parameter whose type has no name. -/
def withUnnamedType : Declaration where
  moduleName := "checks"
  name := "greater"
  displayName := none
  doc := ""
  moduleDoc := ""
  code := ""
  tags := []
  parameters := [⟨"data", .object "", none⟩]
  kind := .function

theorem save_does_not_restore_withUnnamedType :
    withUnnamedType.toMetadata = .ok withUnnamedType.metadata ∧
      ∃ registered saved later,
        Registry.empty.register withUnnamedType = (.ok withUnnamedType.metadata, registered) ∧
          registered.save (store Volume.files workshopPath)
              withUnnamedType.identity ⟨#[1]⟩ workshop = (.ok 1, saved, later) ∧
            ¬Restores Volume.files workshopPath withUnnamedType.metadata 1 later := by
  have accepted : withUnnamedType.toMetadata = .ok withUnnamedType.metadata := rfl
  have short := short_of_declaration withUnnamedType
  obtain ⟨registered, saved, later, registers, saves, holds, keeps⟩ :=
    holds_of_accepted accepted (Registry.find?_empty _) vacant_workshop opens_workshop.1
      short ⟨#[1]⟩
  refine ⟨accepted, registered, saved, later, registers, saves, fun restores => ?_⟩
  have ordered : ∀ parameter ∈ withUnnamedType.metadata.parameters, parameter.Ordered := by
    intro parameter member default given
    rw [List.mem_singleton.mp member] at given
    cases given
  have portable := (holds.restores_iff (opens_workshop.1.later keeps)
    (addresses_of_accepted accepted short) ordered).mp restores
  exact absurd (portable _ List.mem_cons_self).canonical (by decide)

end Directory

end Assay
