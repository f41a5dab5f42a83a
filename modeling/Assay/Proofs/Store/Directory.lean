import Assay.Proofs.Files.Volume.Paths
import Assay.Proofs.Identity
import Assay.Proofs.Metadata.Listing
import Assay.Proofs.Metadata.RoundTrip
import Assay.Proofs.Store.Ledger
import Assay.Store.Directory

/-!
# Stores in the folders of a volume

A volume holds a ledger below a place if every saved definition has its folder
there, with the metadata and the payload of its last save, and no other folder
is there.  Calls then answer what the ledger asks for, and a save leaves a
volume that holds the ledger with one more save.
-/

namespace Assay.Directory

variable {volume : Volume} {root : Path} {home : Location} {ledger : Ledger}
  {identity : Identity} {metadata : Metadata}

/-! ## The places of a store -/

abbrev definitionsPlace (home : Location) : Location := home ++ ["tests"]

abbrev entryPlace (home : Location) (identity : Identity) : Location :=
  definitionsPlace home ++ [identity.text]

abbrev metadataPlace (home : Location) (identity : Identity) : Location :=
  entryPlace home identity ++ ["meta.json"]

abbrev payloadPlace (home : Location) (identity : Identity) : Location :=
  entryPlace home identity ++ ["data.bin"]

/-- The files of a definition can be addressed from a root. -/
structure Addresses (root : Path) (identity : Identity) : Prop where
  enterable : Path.Enterable identity.text
  short : (metadataFile (entryFolder root identity)).byteCount ≤ Volume.longestPath

instance (root : Path) (identity : Identity) : Decidable (Addresses root identity) :=
  decidable_of_iff
    (Path.Enterable identity.text ∧
      (metadataFile (entryFolder root identity)).byteCount ≤ Volume.longestPath)
    ⟨fun ⟨enterable, short⟩ => ⟨enterable, short⟩,
      fun addresses => ⟨addresses.enterable, addresses.short⟩⟩

/-- A root under which a store of a place is opened. -/
structure Opens (volume : Volume) (root : Path) (home : Location) : Prop where
  leads : volume.LeadsTo root home
  short : (definitionsFolder root).byteCount ≤ Volume.longestPath

theorem enterable_definitions : Path.Enterable "tests" := by decide

theorem enterable_metadata : Path.Enterable "meta.json" := by decide

theorem enterable_payload : Path.Enterable "data.bin" := by decide

theorem Addresses.payload_short (addresses : Addresses root identity) :
    (payloadFile (entryFolder root identity)).byteCount ≤ Volume.longestPath := by
  have longer := addresses.short
  rw [metadataFile, Path.byteCount_enter] at longer
  rw [payloadFile, Path.byteCount_enter]
  have sizes : "data.bin".utf8ByteSize ≤ "meta.json".utf8ByteSize := by decide
  omega

theorem Opens.leads_definitions (opens : Opens volume root home) :
    volume.LeadsTo (definitionsFolder root) (definitionsPlace home) :=
  .enter enterable_definitions opens.leads

theorem Opens.leads_entry
    (opens : Opens volume root home) (addresses : Addresses root identity) :
    volume.LeadsTo (entryFolder root identity) (entryPlace home identity) :=
  .enter addresses.enterable opens.leads_definitions

theorem Opens.later
    {later : Volume} (opens : Opens volume root home)
    (keeps : volume.KeepsFolders later) : Opens later root home :=
  ⟨keeps.leadsTo opens.leads, opens.short⟩

/-! ## Volumes that hold a ledger -/

/-- Metadata that is the same after it was written and read back, whatever
version it is given. -/
def Survives (metadata : Metadata) : Prop :=
  ∀ version, decodeMetadata (encodeMetadata (metadata.withVersion version)) =
    .ok (metadata.withVersion version)

private theorem fromUTF8?_toByteArray (text : String) :
    String.fromUTF8? text.toByteArray = some text :=
  dif_pos text.isValidUTF8

/-- What the bytes of metadata are decoded as is what its text is read as. -/
theorem readText_of_decodeMetadata
    {found : Metadata} (decoded : decodeMetadata (encodeMetadata metadata) = .ok found) :
    Metadata.decode.readText metadata.toJson.indented = .ok found := by
  rw [decodeMetadata, encodeMetadata, fromUTF8?_toByteArray] at decoded
  cases read : Metadata.decode.readText metadata.toJson.indented with
  | error error => simp [read] at decoded
  | ok metadata => simpa [read] using decoded

theorem survives_of_portable
    (portable : ∀ parameter ∈ metadata.parameters, parameter.Portable) :
    Survives metadata := by
  intro version
  have versioned : ∀ parameter ∈ (metadata.withVersion version).parameters,
      parameter.Portable := portable
  have read := Metadata.readText_of_print versioned
    (Json.Value.toList_indented (metadata.withVersion version).toJson)
  rw [decodeMetadata, encodeMetadata, fromUTF8?_toByteArray]
  simp only [read]

structure Holds (volume : Volume) (home : Location) (ledger : Ledger) : Prop where
  grounded : volume.Grounded
  free : volume.Free (definitionsPlace home)
  entries : ∀ identity, volume.node? (entryPlace home identity) =
    (ledger.latest? identity).map fun _ => .folder
  metadata : ∀ identity, volume.node? (metadataPlace home identity) =
    (ledger.latest? identity).map fun latest => .file (encodeMetadata latest)
  payloads : ∀ identity, volume.node? (payloadPlace home identity) =
    (ledger.payload? identity).map .file
  /-- The folders there are those of the saved definitions. -/
  names : ∃ identities : List Identity, identities.Nodup ∧
    (∀ identity, identity ∈ identities ↔ ledger.latest? identity ≠ none) ∧
      volume.namesIn (definitionsPlace home) = identities.map (·.text)

theorem decodeMetadata_latest?
    (survive : ∀ save ∈ ledger, Survives save.1)
    (found : ledger.latest? identity = some metadata) :
    decodeMetadata (encodeMetadata metadata) = .ok metadata := by
  obtain ⟨save, saved, _, rfl⟩ := Ledger.save_of_latest? found
  exact survive save saved _

/-- A file of metadata holds what its bytes are decoded as. -/
theorem readMetadata_of_file
    {folder : Path} {place : Location} {bytes : ByteArray}
    (leads : volume.LeadsTo folder place) (grounded : volume.Grounded)
    (free : volume.Free place) (short : (metadataFile folder).byteCount ≤ Volume.longestPath)
    (file : volume.node? (place ++ ["meta.json"]) = some (.file bytes)) :
    readMetadata Volume.files (metadataFile folder) volume =
      match decodeMetadata bytes with
      | .ok metadata => (.ok (some metadata), volume)
      | .error error => refuse error volume := by
  have read := Volume.read_enter leads grounded free enterable_metadata short
  simp only [file] at read
  cases decoded : decodeMetadata bytes <;>
    simp only [readMetadata, Volume.files_read, metadataFile, read, decoded]

theorem readMetadata_of_missing
    {folder : Path} {place : Location}
    (leads : volume.LeadsTo folder place) (grounded : volume.Grounded)
    (free : volume.Free place) (short : (metadataFile folder).byteCount ≤ Volume.longestPath)
    (missing : volume.node? (place ++ ["meta.json"]) = none) :
    readMetadata Volume.files (metadataFile folder) volume = (.ok none, volume) := by
  have read := Volume.read_enter leads grounded free enterable_metadata short
  simp only [missing] at read
  simp only [readMetadata, Volume.files_read, metadataFile, read]

/-- A file of metadata is read as the metadata that was written to it. -/
theorem readMetadata_eq
    {folder : Path} {place : Location} {found : Option Metadata}
    (leads : volume.LeadsTo folder place) (grounded : volume.Grounded)
    (free : volume.Free place) (short : (metadataFile folder).byteCount ≤ Volume.longestPath)
    (written : volume.node? (place ++ ["meta.json"]) =
      found.map fun metadata => .file (encodeMetadata metadata))
    (survives : ∀ metadata, found = some metadata →
      decodeMetadata (encodeMetadata metadata) = .ok metadata) :
    readMetadata Volume.files (metadataFile folder) volume = (.ok found, volume) := by
  cases found with
  | none => exact readMetadata_of_missing leads grounded free short written
  | some metadata =>
      rw [readMetadata_of_file leads grounded free short written, survives metadata rfl]

namespace Holds

theorem free_entry (holds : Holds volume home ledger) (identity : Identity) :
    volume.Free (entryPlace home identity) := by
  intro outer inside content found
  rcases List.prefix_concat_iff.mp inside with rfl | inside
  · rw [holds.entries identity] at found
    cases latest : ledger.latest? identity <;> simp [latest] at found
  · exact holds.free outer inside content found

/-! ## Reading -/

theorem load_eq
    (holds : Holds volume home ledger) (opens : Opens volume root home)
    (addresses : Addresses root identity) (survive : ∀ save ∈ ledger, Survives save.1) :
    load Volume.files root identity volume = (.ok (ledger.latest? identity), volume) :=
  readMetadata_eq (opens.leads_entry addresses) holds.grounded (holds.free_entry identity)
    addresses.short (holds.metadata identity) fun _ => decodeMetadata_latest? survive

/-- What is loaded is decoded from what the last save wrote. -/
theorem decode_of_load
    (holds : Holds volume home ledger) (opens : Opens volume root home)
    (addresses : Addresses root identity) {found : Metadata} {later : Volume}
    (loaded : load Volume.files root identity volume = (.ok (some found), later)) :
    ∃ latest, ledger.latest? identity = some latest ∧
      decodeMetadata (encodeMetadata latest) = .ok found := by
  have leads := opens.leads_entry addresses
  have free := holds.free_entry identity
  have written := holds.metadata identity
  rw [load] at loaded
  cases saved : ledger.latest? identity with
  | none =>
      rw [saved] at written
      rw [readMetadata_of_missing leads holds.grounded free addresses.short written] at loaded
      simp at loaded
  | some latest =>
      rw [saved] at written
      rw [readMetadata_of_file leads holds.grounded free addresses.short written] at loaded
      refine ⟨latest, rfl, ?_⟩
      cases decoded : decodeMetadata (encodeMetadata latest) with
      | error error => simp [decoded, refuse] at loaded
      | ok metadata =>
          obtain ⟨rfl, _⟩ : metadata = found ∧ volume = later := by simpa [decoded] using loaded
          rfl

theorem payload_eq
    (holds : Holds volume home ledger) (opens : Opens volume root home)
    (addresses : Addresses root identity) :
    payload Volume.files root identity volume =
      (.ok (ledger.payload? identity), volume) := by
  have read := Volume.read_enter (opens.leads_entry addresses) holds.grounded
    (holds.free_entry identity) enterable_payload addresses.payload_short
  rw [holds.payloads identity] at read
  change volume.read (payloadFile (entryFolder root identity)) = _ at read
  rw [payload, Volume.files_read, read]
  cases ledger.payload? identity <;> rfl

/-! ## Listing -/

theorem readAll_eq
    (holds : Holds volume home ledger) (opens : Opens volume root home)
    (survive : ∀ save ∈ ledger, Survives save.1)
    {identities : List Identity}
    (addresses : ∀ identity ∈ identities, Addresses root identity) :
    readAll Volume.files root (identities.map (·.text)) volume =
      (.ok (identities.filterMap ledger.latest?), volume) := by
  induction identities with
  | nil => rfl
  | cons identity identities induction =>
      obtain ⟨first, rest⟩ := List.forall_mem_cons.mp addresses
      have read := holds.load_eq opens first survive
      rw [load, entryFolder] at read
      rw [List.map_cons, readAll, read, List.filterMap_cons]
      simp only [induction rest]
      cases ledger.latest? identity <;> rfl

theorem lists_filterMap
    {identities : List Identity} (once : identities.Nodup)
    (saved : ∀ identity, identity ∈ identities ↔ ledger.latest? identity ≠ none) :
    ledger.Lists (Metadata.sortForListing (identities.filterMap ledger.latest?)) := by
  have permuted := Metadata.sortForListing_perm (identities.filterMap ledger.latest?)
  refine ⟨Metadata.sortForListing_pairwise _, ?_, ?_⟩
  · refine (permuted.map _).nodup_iff.mpr ?_
    rw [List.Nodup, List.pairwise_map]
    rw [List.pairwise_filterMap]
    refine once.imp fun different earlier earlierFound later laterFound same => ?_
    rw [Ledger.identity_of_latest? earlierFound, Ledger.identity_of_latest? laterFound] at same
    exact different same
  · intro metadata
    rw [permuted.mem_iff, List.mem_filterMap]
    constructor
    · rintro ⟨identity, _, found⟩
      rw [Ledger.identity_of_latest? found]
      exact found
    · intro found
      exact ⟨metadata.identity, (saved _).mpr (by simp [found]), found⟩

theorem list_eq
    (holds : Holds volume home ledger) (opens : Opens volume root home)
    (addresses : ∀ save ∈ ledger, Addresses root save.1.identity)
    (survive : ∀ save ∈ ledger, Survives save.1) :
    ∃ listing, ledger.Lists listing ∧
      list Volume.files root volume = (.ok listing, volume) := by
  obtain ⟨identities, once, saved, names⟩ := holds.names
  have children := Volume.children_enter opens.leads holds.grounded holds.free.of_enter
    enterable_definitions opens.short
  change volume.children (definitionsFolder root) = _ at children
  have reached : ∀ identity ∈ identities, Addresses root identity := by
    intro identity member
    obtain ⟨metadata, found⟩ := Option.ne_none_iff_exists'.mp ((saved identity).mp member)
    obtain ⟨save, present, same, _⟩ := Ledger.save_of_latest? found
    exact same ▸ addresses save present
  have read := holds.readAll_eq opens survive reached
  refine ⟨Metadata.sortForListing (identities.filterMap ledger.latest?),
    lists_filterMap once saved, ?_⟩
  rw [list, Volume.files_children, children]
  rcases holds.free.none_or_folder with missing | folder
  · have none : identities = [] := by
      apply List.eq_nil_iff_forall_not_mem.mpr
      intro identity member
      obtain ⟨metadata, found⟩ := Option.ne_none_iff_exists'.mp ((saved identity).mp member)
      have entry := holds.entries identity
      rw [found, holds.grounded.none_of_none missing] at entry
      contradiction
    simp [missing, none, Metadata.sortForListing]
  · simp only [folder, names, read]

end Holds

/-! ## Saving -/

@[simp] theorem nextVersion_latest? (ledger : Ledger) (identity : Identity) :
    nextVersion (ledger.latest? identity) =
      .ofNat ((ledger.of identity).length + 1) := by
  rw [UInt32.ofNat_add, Ledger.latest?]
  cases last : (ledger.of identity).getLast? with
  | none =>
      rw [List.getLast?_eq_none_iff.mp last]
      rfl
  | some save => rfl

/-- The volume after a save in the folder of a definition. -/
def stored (volume : Volume) (entry : Location) (written payload : ByteArray) : Volume :=
  ((volume.addFolders entry).put (entry ++ ["meta.json"]) (.file written)).put
    (entry ++ ["data.bin"]) (.file payload)

theorem node?_stored
    {entry : Location} (free : volume.Free entry) (written payload : ByteArray)
    (place : Location) :
    (stored volume entry written payload).node? place =
      if place = entry ++ ["data.bin"] then some (.file payload)
      else if place = entry ++ ["meta.json"] then some (.file written)
      else if place <+: entry then some .folder
      else volume.node? place := by
  rw [stored, Volume.node?_put, Volume.node?_put, Volume.node?_addFolders free]

/-- A save leaves the folders of other definitions alone. -/
theorem node?_stored_of_ne
    {saved : Identity} (free : volume.Free (entryPlace home saved))
    (different : identity ≠ saved) {place : Location}
    (below : entryPlace home identity <+: place) (written payload : ByteArray) :
    (stored volume (entryPlace home saved) written payload).node? place =
      volume.node? place := by
  obtain ⟨rest, rfl⟩ := below
  have texts := mt Identity.text_injective different
  rw [node?_stored free, if_neg (by simp [texts]), if_neg (by simp [texts]),
    if_neg (by simp [texts])]

/-- The two files of a definition are written in its folder. -/
theorem write_files
    {folder : Path} {entry : Location}
    (leads : volume.LeadsTo folder entry) (grounded : volume.Grounded)
    (there : volume.node? entry = some .folder)
    (metadataShort : (metadataFile folder).byteCount ≤ Volume.longestPath)
    (payloadShort : (payloadFile folder).byteCount ≤ Volume.longestPath)
    (metadataFree : volume.node? (entry ++ ["meta.json"]) ≠ some .folder)
    (payloadFree : volume.node? (entry ++ ["data.bin"]) ≠ some .folder)
    (written payload : ByteArray) :
    let later := volume.put (entry ++ ["meta.json"]) (.file written)
    Volume.files.write (metadataFile folder) written volume = (.ok (), later) ∧
      Volume.files.write (payloadFile folder) payload later =
        (.ok (), later.put (entry ++ ["data.bin"]) (.file payload)) := by
  intro later
  have leadsLater : later.LeadsTo folder entry :=
    (Volume.keepsFolders_putFile metadataFree written).leadsTo leads
  have groundedLater : later.Grounded := grounded.putFile there metadataFree written
  have thereLater : later.node? entry = some .folder := by
    simpa [later] using there
  have freeLater : later.node? (entry ++ ["data.bin"]) ≠ some .folder := by
    simpa [later] using payloadFree
  exact ⟨Volume.files_write_of_ok (Volume.write_enter leads grounded there
      enterable_metadata metadataShort metadataFree written),
    Volume.files_write_of_ok (Volume.write_enter leadsLater groundedLater thereLater
      enterable_payload payloadShort freeLater payload)⟩

namespace Holds

theorem metadata_free (holds : Holds volume home ledger) (identity : Identity) :
    volume.node? (metadataPlace home identity) ≠ some .folder := by
  rw [holds.metadata]
  cases ledger.latest? identity <;> simp

theorem payload_free (holds : Holds volume home ledger) (identity : Identity) :
    volume.node? (payloadPlace home identity) ≠ some .folder := by
  rw [holds.payloads]
  cases ledger.payload? identity <;> simp

/-- Making the folder of a definition changes nothing within it. -/
theorem node?_within
    (holds : Holds volume home ledger) (identity : Identity) (name : String) :
    (volume.addFolders (entryPlace home identity)).node? (entryPlace home identity ++ [name]) =
      volume.node? (entryPlace home identity ++ [name]) := by
  rw [Volume.node?_addFolders (holds.free_entry identity),
    if_neg (Volume.not_enter_within _ name)]

/-- A save makes the folder of the definition, reads the version that is there
and writes both files. -/
theorem save_eq
    (holds : Holds volume home ledger) (opens : Opens volume root home)
    (addresses : Addresses root metadata.identity)
    (survive : ∀ save ∈ ledger, Survives save.1) (payload : Payload) :
    let version : Version := .ofNat ((ledger.of metadata.identity).length + 1)
    save Volume.files root metadata payload volume =
      (.ok version, stored volume (entryPlace home metadata.identity)
        (encodeMetadata (metadata.withVersion version)) payload) := by
  intro version
  have free := holds.free_entry metadata.identity
  have made : Volume.files.makeFolders (entryFolder root metadata.identity) volume =
      (.ok (), volume.addFolders (entryPlace home metadata.identity)) :=
    Volume.makeFolders_enter opens.leads_definitions holds.grounded free
      addresses.enterable (Volume.short_of_enter addresses.short)
  have leads := (Volume.keepsFolders_addFolders free).leadsTo (opens.leads_entry addresses)
  have grounded := holds.grounded.addFolders free
  have kept := holds.node?_within metadata.identity
  have read := readMetadata_eq leads grounded (free.addFolders free) addresses.short
    ((kept _).trans (holds.metadata metadata.identity))
    fun _ => decodeMetadata_latest? survive
  obtain ⟨metadataWritten, payloadWritten⟩ := write_files leads grounded
    (Volume.node?_addFolders_self free) addresses.short addresses.payload_short
    (kept _ ▸ holds.metadata_free metadata.identity)
    (kept _ ▸ holds.payload_free metadata.identity)
    (encodeMetadata (metadata.withVersion version)) payload
  rw [save, made]
  simp only [read, nextVersion_latest?, metadataWritten, payloadWritten, version]
  rfl

theorem keepsFolders_stored
    (holds : Holds volume home ledger) (identity : Identity) (written payload : ByteArray) :
    volume.KeepsFolders
      (stored volume (entryPlace home identity) written payload) where
  working := Volume.working_addFolders volume (entryPlace home identity)
  folder := by
    intro place folder
    have notPayload : place ≠ payloadPlace home identity := fun same =>
      holds.payload_free identity (same ▸ folder)
    have notMetadata : place ≠ metadataPlace home identity := fun same =>
      holds.metadata_free identity (same ▸ folder)
    rw [node?_stored (holds.free_entry identity), if_neg notPayload, if_neg notMetadata]
    split
    · rfl
    · exact folder

theorem grounded_stored
    (holds : Holds volume home ledger) (identity : Identity) (written payload : ByteArray) :
    (stored volume (entryPlace home identity) written payload).Grounded := by
  have free := holds.free_entry identity
  have kept := holds.node?_within identity
  have there := Volume.node?_addFolders_self free
  refine ((holds.grounded.addFolders free).putFile there ?_ written).putFile ?_ ?_ payload
  · rw [kept]
    exact holds.metadata_free identity
  · rw [Volume.node?_put_of_ne (by simp)]
    exact there
  · rw [Volume.node?_put_of_ne (by simp), kept]
    exact holds.payload_free identity

/-- After a save the volume holds the ledger with that save. -/
theorem after_save
    (holds : Holds volume home ledger) (metadata : Metadata) (payload : Payload) :
    let version : Version := .ofNat ((ledger.of metadata.identity).length + 1)
    Holds (stored volume (entryPlace home metadata.identity)
      (encodeMetadata (metadata.withVersion version)) payload) home
        (ledger ++ [(metadata, payload)]) := by
  intro version
  have free := holds.free_entry metadata.identity
  refine ⟨holds.grounded_stored _ _ _, ?free, ?entries, ?metadata, ?payloads, ?names⟩
  case free =>
    intro outer inside content found
    have below := inside.length_le
    have notFile : ∀ name, outer ≠ entryPlace home metadata.identity ++ [name] := by
      rintro name rfl
      simp at below
    rw [node?_stored free, if_neg (notFile _), if_neg (notFile _),
      if_pos (inside.trans (List.prefix_append _ _))] at found
    exact FileNode.noConfusion (Option.some.inj found)
  case entries =>
    intro identity
    by_cases same : identity = metadata.identity
    · subst same
      rw [node?_stored free, Ledger.latest?_save]
      simp
    · rw [Ledger.latest?_save_of_ne (Ne.symm same),
        node?_stored_of_ne free same (List.prefix_refl _), holds.entries]
  case metadata =>
    intro identity
    by_cases same : identity = metadata.identity
    · subst same
      rw [node?_stored free, Ledger.latest?_save]
      simp [version]
    · rw [Ledger.latest?_save_of_ne (Ne.symm same),
        node?_stored_of_ne free same (List.prefix_append _ _), holds.metadata]
  case payloads =>
    intro identity
    by_cases same : identity = metadata.identity
    · subst same
      rw [node?_stored free, Ledger.payload?_save]
      simp
    · rw [Ledger.payload?_save_of_ne (Ne.symm same),
        node?_stored_of_ne free same (List.prefix_append _ _), holds.payloads]
  case names =>
    obtain ⟨identities, once, saved, names⟩ := holds.names
    have added : (Directory.stored volume (entryPlace home metadata.identity)
        (encodeMetadata (metadata.withVersion version)) payload).namesIn
          (definitionsPlace home) =
        identities.map (·.text) ++
          if (ledger.latest? metadata.identity).isNone then [metadata.identity.text] else [] := by
      rw [Directory.stored, Volume.namesIn_put_of_ne (by simp),
        Volume.namesIn_put_of_ne (by simp), Volume.namesIn_addFolders_enter free, names,
        holds.entries, Option.isNone_map]
    rw [added]
    cases found : ledger.latest? metadata.identity with
    | some known =>
        refine ⟨identities, once, fun identity => ?_, by simp⟩
        rw [Ledger.latest?_save_ne_none_iff, saved]
        refine ⟨.inr, ?_⟩
        rintro (rfl | present)
        · simp [found]
        · exact present
    | none =>
        have new : metadata.identity ∉ identities := fun member =>
          (saved metadata.identity).mp member found
        refine ⟨identities ++ [metadata.identity], ?_, fun identity => ?_, by simp⟩
        · refine List.nodup_append.mpr ⟨once, by simp, ?_⟩
          intro known member other single same
          rw [List.mem_singleton.mp single] at same
          exact new (same ▸ member)
        · rw [Ledger.latest?_save_ne_none_iff, List.mem_append, List.mem_singleton,
            saved, or_comm]

end Holds

end Assay.Directory
