import Assay.CommandLine
import Assay.Proofs.Metadata.Canonical
import Assay.Proofs.Metadata.Listing

/-!
# Where answers come from

All that a store in folders or behind a server answers was read from a text: from a file,
from the answer for a definition or from a part of the answer for a project.  So it is in a
form that can be written and read again, whatever the files and the answers hold.
-/

namespace Assay

/-- The numbers in the defaults are those that their texts stand for. -/
def Metadata.IsLegible (metadata : Metadata) : Prop :=
  ∀ parameter ∈ metadata.parameters, ∀ default ∈ parameter.default, default.Legible

/-- The metadata can be written and read again, but for numbers that are read back as
others. -/
def Metadata.WasRead (metadata : Metadata) : Prop :=
  metadata.IsLegible → ∀ parameter ∈ metadata.parameters, parameter.Portable

/-- A store whose answers were read. -/
structure DefinitionStore.ReadsAnswers {σ : Type} (store : DefinitionStore σ) : Prop where
  load : ∀ {identity state metadata},
    (store.load identity state).1 = .ok (some metadata) → metadata.WasRead
  list : ∀ {state definitions},
    (store.list state).1 = .ok definitions → ∀ metadata ∈ definitions, metadata.WasRead

theorem Metadata.wasRead_of_readText
    {text : String} {metadata : Metadata} (read : decode.readText text = .ok metadata) :
    metadata.WasRead :=
  portable_of_parameters (Json.Decoder.readText_eq_ok read)

/-! ## Folders -/

namespace Directory

variable {σ : Type} {files : FileSystem σ} {root : Path}

theorem wasRead_of_decodeMetadata
    {bytes : ByteArray} {metadata : Metadata} (decoded : decodeMetadata bytes = .ok metadata) :
    metadata.WasRead := by
  rw [decodeMetadata] at decoded
  split at decoded
  · contradiction
  · split at decoded
    · rename_i read
      rw [← Except.ok.inj decoded]
      exact Metadata.wasRead_of_readText read
    · contradiction

theorem wasRead_of_readMetadata
    {path : Path} {state : σ} {metadata : Metadata}
    (answered : (readMetadata files path state).1 = .ok (some metadata)) :
    metadata.WasRead := by
  rw [readMetadata] at answered
  split at answered
  · cases answered
  · cases answered
  · split at answered
    · rename_i decoded
      cases answered
      exact wasRead_of_decodeMetadata decoded
    · cases answered

theorem wasRead_of_readAll
    {names : List String} {state : σ} {definitions : List Metadata}
    (answered : (readAll files root names state).1 = .ok definitions) :
    ∀ metadata ∈ definitions, metadata.WasRead := by
  induction names generalizing state definitions with
  | nil =>
      cases answered
      exact List.forall_mem_nil _
  | cons name names induction =>
      rw [readAll] at answered
      split at answered
      · cases answered
      · rename_i found after read
        split at answered
        · cases answered
        · rename_i others final readOthers
          cases answered
          refine List.forall_mem_append.mpr ⟨?first, induction (congrArg Prod.fst readOthers)⟩
          intro metadata member
          obtain rfl := Option.mem_toList.mp member
          exact wasRead_of_readMetadata (congrArg Prod.fst read)

theorem readsAnswers (files : FileSystem σ) (root : Path) : (store files root).ReadsAnswers where
  load := wasRead_of_readMetadata
  list := by
    intro state definitions answered
    change (list files root state).1 = .ok definitions at answered
    rw [list] at answered
    split at answered
    · cases answered
      exact List.forall_mem_nil _
    · cases answered
    · split at answered
      · cases answered
      · rename_i names after _ found final read
        cases answered
        intro metadata member
        have present := (Metadata.sortForListing_perm found).mem_iff.mp member
        exact wasRead_of_readAll (congrArg Prod.fst read) metadata present

end Directory

/-! ## Servers -/

namespace Remote

variable {σ : Type} {send : Transport σ}

theorem readText_of_readBody
    {α : Type} {decode : Json.Decoder α} {body : String} {content : α}
    (read : readBody decode body = .ok content) : decode.readText body = .ok content := by
  rw [readBody] at read
  split at read
  · rename_i found
    rw [found, Except.ok.inj read]
  · contradiction

theorem keeps_definitions :
    listingShape.Keeps "tests" (Json.Decoder.list Metadata.decode) (·.definitions) where
  kept := ⟨true, _, rfl, fun _ _ => rfl⟩
  others := by
    simp only [listingShape, List.forall_mem_cons]
    exact ⟨fun own => absurd rfl own, List.forall_mem_nil _⟩
  once := by decide
  blank := rfl

/-- The definitions of a listing stand two levels within its text. -/
theorem wasRead_of_listing
    {body : String} {definitions : List Metadata}
    (read : listingShape.decode.readText body = .ok definitions) :
    ∀ metadata ∈ definitions, metadata.WasRead := by
  obtain ⟨_, draft, entered, fills, finished⟩ :=
    Json.Shape.decode_eq_ok (Json.Decoder.readText_eq_ok read)
  obtain rfl := Except.ok.inj entered
  have taken := fills.kept keeps_definitions
  rw [Json.needed_eq_ok finished] at taken
  obtain ⟨part, _, decoded⟩ := taken.of_some
  obtain ⟨_, sources, _, enteredList, _, each⟩ := Json.Decoder.list_eq_ok decoded
  obtain rfl := Except.ok.inj enteredList
  intro metadata member legible
  obtain ⟨source, _, decodedOne⟩ := Json.Decoder.exists_source_of_mem each member
  have few : Parameter.defaultLevels - 2 ≤ Parameter.defaultLevels := Nat.sub_le _ _
  exact Metadata.portable_of_part decodedOne few legible

theorem readsAnswers (remote : Remote) (send : Transport σ) :
    (remote.store send).ReadsAnswers where
  load := by
    intro identity state metadata answered
    change (remote.load send identity state).1 = .ok (some metadata) at answered
    rw [load] at answered
    split at answered
    · cases answered
    · cases answered
    · rename_i body after called
      cases read : readBody Metadata.decode body with
      | error error =>
          rw [read] at answered
          cases answered
      | ok found =>
          rw [read] at answered
          cases answered
          exact Metadata.wasRead_of_readText (readText_of_readBody read)
  list := by
    intro state definitions answered
    change (remote.list send state).1 = .ok definitions at answered
    rw [list] at answered
    split at answered
    · cases answered
    · rename_i body after called
      cases read : readBody listingShape.decode body with
      | error error =>
          rw [read] at answered
          cases answered
      | ok found =>
          rw [read] at answered
          cases answered
          exact wasRead_of_listing (readText_of_readBody read)

end Remote

/-- Whatever store the settings choose, its answers were read. -/
theorem Settings.readsAnswers_store
    {σ : Type} (settings : Settings) (files : FileSystem σ) (send : Transport σ) (uptime : Nat) :
    (settings.store files send uptime).ReadsAnswers := by
  rw [store]
  split
  · exact Remote.readsAnswers _ send
  · exact Directory.readsAnswers files _

end Assay
