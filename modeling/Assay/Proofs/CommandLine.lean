import Assay.Proofs.Identity
import Assay.Proofs.Json.Lines
import Assay.Proofs.Store.Directory
import Assay.Proofs.Store.Provenance

/-!
# What the command line tells

A listing has one line for each definition of the store, and the definition that is shown
fills the output.  Either way the definitions can be read back from what is written.  A
command that fails writes nothing.
-/

namespace Assay

namespace Text

/-- Lines that are ended by a separator are told apart, with nothing after the last one. -/
theorem pieces_lines
    {separator : Char} {lines : List (List Char)} (absent : ∀ line ∈ lines, separator ∉ line) :
    pieces separator (lines.flatMap (· ++ [separator])) = lines ++ [[]] := by
  induction lines with
  | nil => rfl
  | cons line lines induction =>
      obtain ⟨first, rest⟩ := List.forall_mem_cons.mp absent
      rw [List.flatMap_cons, List.append_assoc, List.singleton_append, pieces_append,
        pieces_of_not_mem first, induction rest, List.singleton_append, List.cons_append]

end Text

namespace CommandLine

/-! ## Definitions in an output -/

theorem toList_listingText (definitions : List Metadata) :
    (listingText definitions).toList =
      (definitions.map fun metadata => metadata.toJson.print).flatMap (· ++ ['\n']) := by
  rw [listingText, String.toList_join, List.flatMap_map, List.flatMap_map]
  simp only [String.toList_append, Json.Value.compact, String.toList_ofList]
  rfl

theorem pieces_listingText (definitions : List Metadata) :
    Text.pieces '\n' (listingText definitions).toList =
      (definitions.map fun metadata => metadata.toJson.print) ++ [[]] := by
  rw [toList_listingText]
  apply Text.pieces_lines
  intro line member
  obtain ⟨metadata, _, rfl⟩ := List.mem_map.mp member
  exact metadata.toJson.isClear_print.newline_not_mem

/-- The lines of an output, each of them ended by a line break, are texts of the definitions
in order. -/
def ListsLines (output : String) (definitions : List Metadata) : Prop :=
  ∃ lines, Text.pieces '\n' output.toList = lines ++ [[]] ∧
    List.Forall₂ (fun line metadata => metadata.IsLegible →
      Metadata.decode.readText (String.ofList line) = .ok metadata) lines definitions

theorem listsLines_listingText
    {definitions : List Metadata} (read : ∀ metadata ∈ definitions, metadata.WasRead) :
    ListsLines (listingText definitions) definitions := by
  refine ⟨_, pieces_listingText definitions, ?_⟩
  rw [List.forall₂_map_left_iff, List.forall₂_same]
  intro metadata member legible
  exact Metadata.readText_of_print (read metadata member legible)
    (Json.Value.toList_compact metadata.toJson)

theorem readText_shown
    {metadata : Metadata} (portable : ∀ parameter ∈ metadata.parameters, parameter.Portable) :
    Metadata.decode.readText (metadata.toJson.indented ++ "\n") = .ok metadata := by
  have legible : metadata.toJson.Legible :=
    Metadata.legible_toJson fun parameter member => (portable parameter member).legible
  have blank : ∀ character ∈ ['\n'], Json.isSpace character = true :=
    List.forall_mem_singleton.mpr rfl
  have printed : (metadata.toJson.indented ++ "\n").toList =
      Json.Spacing.indented.print 0 metadata.toJson ++ ['\n'] := by
    rw [String.toList_append, Json.Value.toList_indented]
    rfl
  rw [Json.Decoder.readText_print_append _ blank printed,
    Json.Source.reread_of_legible legible, Metadata.decode_toJson portable]

/-! ## Commands -/

variable {σ : Type} {store : DefinitionStore σ} {state : σ}

/-- A listing that succeeds lists what the store answers. -/
theorem listAll_of_ok
    (readsAnswers : store.ReadsAnswers) {definitions : List Metadata}
    (answered : (store.list state).1 = .ok definitions) :
    (listAll store state).1.code = 0 ∧
      ListsLines (listAll store state).1.output definitions := by
  rw [listAll]
  split
  · rename_i failed
    rw [failed] at answered
    cases answered
  · rename_i listed
    rw [listed] at answered
    cases answered
    exact ⟨rfl, listsLines_listingText (readsAnswers.list (congrArg Prod.fst listed))⟩

theorem listAll_of_error
    {failure : CallFailure} (answered : (store.list state).1 = .error failure) :
    (listAll store state).1.code = 1 ∧ (listAll store state).1.output = "" := by
  rw [listAll]
  split
  · exact ⟨rfl, rfl⟩
  · rename_i listed
    rw [listed] at answered
    cases answered

/-- The store has a definition of the identity that a text stands for. -/
def Finds (store : DefinitionStore σ) (text : String) (state : σ) (metadata : Metadata) : Prop :=
  ∃ identity, Identity.ofText text = .ok identity ∧
    (store.load identity state).1 = .ok (some metadata)

theorem Finds.unique
    {text : String} {metadata other : Metadata}
    (finds : Finds store text state metadata) (findsOther : Finds store text state other) :
    metadata = other := by
  obtain ⟨identity, accepted, answered⟩ := finds
  obtain ⟨same, acceptedToo, answeredToo⟩ := findsOther
  obtain rfl : identity = same := Except.ok.inj (accepted.symm.trans acceptedToo)
  exact Option.some.inj (Except.ok.inj (answered.symm.trans answeredToo))

theorem showOne_of_finds
    {text : String} {metadata : Metadata} (finds : Finds store text state metadata) :
    (showOne store text state).1 = .done (metadata.toJson.indented ++ "\n") := by
  obtain ⟨identity, accepted, answered⟩ := finds
  simp only [showOne, accepted]
  split
  · rename_i failed
    rw [failed] at answered
    cases answered
  · rename_i missing
    rw [missing] at answered
    cases answered
  · rename_i loaded
    rw [loaded] at answered
    cases answered
    rfl

theorem showOne_of_not_finds
    {text : String} (missing : ∀ metadata, ¬Finds store text state metadata) :
    ∃ complaint, (showOne store text state).1 = .failed complaint := by
  rw [showOne]
  split
  · exact ⟨_, rfl⟩
  · rename_i identity accepted
    split
    · exact ⟨_, rfl⟩
    · exact ⟨_, rfl⟩
    · rename_i metadata _ loaded
      exact absurd ⟨identity, accepted, congrArg Prod.fst loaded⟩ (missing metadata)

/-- What is shown is the definition that the store has for the identity, and nothing if it has
none. -/
theorem showOne_tells
    (readsAnswers : store.ReadsAnswers) (text : String) (state : σ) :
    let answer := (showOne store text state).1
    (answer.code = 0 ↔ ∃ metadata, Finds store text state metadata) ∧
      (∀ metadata, Finds store text state metadata → metadata.IsLegible →
        Metadata.decode.readText answer.output = .ok metadata) ∧
      (answer.code ≠ 0 → answer.code = 1 ∧ answer.output = "") := by
  intro answer
  by_cases found : ∃ metadata, Finds store text state metadata
  · obtain ⟨metadata, finds⟩ := found
    have shown : answer = .done (metadata.toJson.indented ++ "\n") := showOne_of_finds finds
    rw [shown]
    refine ⟨⟨fun _ => ⟨metadata, finds⟩, fun _ => rfl⟩, ?_, fun failed => absurd rfl failed⟩
    intro other findsOther legible
    obtain rfl : metadata = other := finds.unique findsOther
    obtain ⟨identity, _, answered⟩ := finds
    exact readText_shown (readsAnswers.load answered legible)
  · have missing : ∀ metadata, ¬Finds store text state metadata := not_exists.mp found
    obtain ⟨complaint, failed⟩ := showOne_of_not_finds missing
    have shown : answer = .failed complaint := failed
    rw [shown]
    refine ⟨⟨fun zero => absurd zero Nat.one_ne_zero, fun finds => absurd finds found⟩, ?_,
      fun _ => ⟨rfl, rfl⟩⟩
    intro metadata finds
    exact absurd finds (missing metadata)

/-! ## Runs -/

section

variable {files : FileSystem σ} {send : Transport σ} {levels uptime : Nat}
  {environment : Environment}
  {arguments : List String} {filled : Environment} {ready : σ} {settings : Settings}
  {command : Command}

theorem run_command
    (asked : read arguments = .command command)
    (filling : DotEnv.fillFrom files environment (DotEnv.candidates levels) state =
      (some filled, ready))
    (configured : Settings.ofEnvironment filled = .ok settings) :
    run files send levels uptime environment arguments state =
      execute (settings.store files send uptime) command ready := by
  simp only [run, asked, filling, configured]

end

/-- With settings that are valid, the command line tells all there is to know of the store
that they choose.  A listing that the store answers has one line for each definition, and
each can be read back; a listing that fails leaves nothing.  What is shown is the definition
that the store has for the identity, if the identity is accepted and there is one; otherwise
nothing is written. -/
theorem run_is_lossless
    (files : FileSystem σ)
    (send : Transport σ)
    (levels uptime : Nat)
    (environment : Environment)
    (arguments : List String)
    (state : σ)
    {filled : Environment}
    {ready : σ}
    {settings : Settings}
    (filling : DotEnv.fillFrom files environment (DotEnv.candidates levels) state =
      (some filled, ready))
    (configured : Settings.ofEnvironment filled = .ok settings) :
    let store := settings.store files send uptime
    let answer := (run files send levels uptime environment arguments state).1
    (read arguments = .command .listAll →
      (∀ definitions, (store.list ready).1 = .ok definitions →
        answer.code = 0 ∧ ListsLines answer.output definitions) ∧
      ∀ failure, (store.list ready).1 = .error failure →
        answer.code = 1 ∧ answer.output = "") ∧
    ∀ text, read arguments = .command (.showOne text) →
      (answer.code = 0 ↔ ∃ identity metadata, Identity.ofText text = .ok identity ∧
        (store.load identity ready).1 = .ok (some metadata)) ∧
      (∀ identity metadata, Identity.ofText text = .ok identity →
        (store.load identity ready).1 = .ok (some metadata) →
          metadata.IsLegible → Metadata.decode.readText answer.output = .ok metadata) ∧
      (answer.code ≠ 0 → answer.code = 1 ∧ answer.output = "") := by
  intro store answer
  have readsAnswers : store.ReadsAnswers := settings.readsAnswers_store files send uptime
  constructor
  · intro asked
    have same : answer = (listAll store ready).1 := by
      simp only [answer, run_command asked filling configured]
      rfl
    rw [same]
    exact ⟨fun _ => listAll_of_ok readsAnswers, fun _ => listAll_of_error⟩
  · intro text asked
    have same : answer = (showOne store text ready).1 := by
      simp only [answer, run_command asked filling configured]
      rfl
    rw [same]
    obtain ⟨succeeds, shows, fails⟩ := showOne_tells readsAnswers text ready
    refine ⟨succeeds.trans exists_comm, ?_, fails⟩
    intro identity metadata accepted answered
    exact shows metadata ⟨identity, accepted, answered⟩

/-- A folder with one definition in it that cannot be changed. -/
def shelf : FileSystem Unit where
  read := fun path state =>
    (if path.names.getLast? = some "meta.json"
      then .ok (Directory.encodeMetadata .withinTolerance) else .error .notFound, state)
  write := fun _ _ state => (.error .failed, state)
  makeFolders := fun _ state => (.error .failed, state)
  children := fun _ state => (.ok [Metadata.withinTolerance.identity.text], state)

/-- There is no server. -/
def nobody : Transport Unit := fun _ state => (.error .unreachable, state)

theorem decodeMetadata_shelf :
    Directory.decodeMetadata (Directory.encodeMetadata .withinTolerance) =
      .ok .withinTolerance := by
  have same : Metadata.withinTolerance.withVersion 4294967295 = .withinTolerance := rfl
  have decoded := Directory.survives_of_portable Metadata.portable_withinTolerance 4294967295
  rwa [same] at decoded

theorem readMetadata_of_decoded
    {files : FileSystem σ} {path : Path} {after : σ} {bytes : ByteArray} {metadata : Metadata}
    (read : files.read path state = (.ok bytes, after))
    (decoded : Directory.decodeMetadata bytes = .ok metadata) :
    Directory.readMetadata files path state = (.ok (some metadata), after) := by
  simp only [Directory.readMetadata, read, decoded]

theorem list_of_readAll
    {files : FileSystem σ} {root : Path} {names : List String} {middle after : σ}
    {definitions : List Metadata}
    (named : files.children (Directory.definitionsFolder root) state = (.ok names, middle))
    (read : Directory.readAll files root names middle = (.ok definitions, after)) :
    Directory.list files root state = (.ok (Metadata.sortForListing definitions), after) := by
  simp only [Directory.list, named, read]

theorem readMetadata_shelf (folder : Path) :
    Directory.readMetadata shelf (Directory.metadataFile folder) () =
      (.ok (some .withinTolerance), ()) := by
  have read : shelf.read (Directory.metadataFile folder) () =
      (.ok (Directory.encodeMetadata .withinTolerance), ()) :=
    congrArg (·, ()) (if_pos List.getLast?_concat)
  exact readMetadata_of_decoded read decodeMetadata_shelf

theorem list_shelf (root : Path) :
    (Directory.list shelf root ()).1 = .ok [.withinTolerance] := by
  have read : Directory.readAll shelf root [Metadata.withinTolerance.identity.text] () =
      (.ok [.withinTolerance], ()) := by
    simp only [Directory.readAll, readMetadata_shelf]
    rfl
  have sorted : Metadata.sortForListing [.withinTolerance] = [.withinTolerance] :=
    List.mergeSort_singleton _
  rw [list_of_readAll rfl read, sorted]

/-- The definition on the shelf is listed on a line of its own and shown, and what is no
identity is not. -/
theorem run_shelf :
    DotEnv.fillFrom shelf .empty (DotEnv.candidates 1) () = (some .empty, ()) ∧
      Settings.ofEnvironment .empty = .ok .default ∧
      ListsLines (run shelf nobody 1 600 .empty ["list"] ()).1.output [.withinTolerance] ∧
      (run shelf nobody 1 600 .empty ["show", "--", "within-tolerance"] ()).1.code = 0 ∧
      (run shelf nobody 1 600 .empty ["show", "within/tolerance"] ()).1.output = "" := by
  have filling : DotEnv.fillFrom shelf .empty (DotEnv.candidates 1) () = (some .empty, ()) := rfl
  have configured : Settings.ofEnvironment .empty = .ok .default := rfl
  let root := Path.ofText Settings.default.localFolder
  have chosen : Settings.default.store shelf nobody 600 = Directory.store shelf root := rfl
  have listed : ((Settings.default.store shelf nobody 600).list ()).1 = .ok [.withinTolerance] := by
    rw [chosen]
    exact list_shelf root
  have loaded : ((Settings.default.store shelf nobody 600).load
      Metadata.withinTolerance.identity ()).1 = .ok (some .withinTolerance) := by
    rw [chosen]
    exact congrArg Prod.fst
      (readMetadata_shelf (Directory.entryFolder root Metadata.withinTolerance.identity))
  have accepted : Identity.ofText "within-tolerance" = .ok Metadata.withinTolerance.identity :=
    rfl
  have unacceptable : Identity.ofText "within/tolerance" =
      .error (.invalidIdentity "within/tolerance") := rfl
  obtain ⟨listing, _⟩ := run_is_lossless shelf nobody 1 600 .empty ["list"] () filling configured
  obtain ⟨_, shown⟩ :=
    run_is_lossless shelf nobody 1 600 .empty ["show", "--", "within-tolerance"] ()
    filling configured
  obtain ⟨_, refused⟩ := run_is_lossless shelf nobody 1 600 .empty ["show", "within/tolerance"] ()
    filling configured
  refine ⟨filling, configured, ?listing, ?shown, ?refused⟩
  case listing =>
    obtain ⟨succeeds, _⟩ := listing rfl
    exact (succeeds _ listed).2
  case shown =>
    obtain ⟨succeeds, _⟩ := shown "within-tolerance" rfl
    exact succeeds.mpr ⟨_, _, accepted, loaded⟩
  case refused =>
    obtain ⟨succeeds, _, fails⟩ := refused "within/tolerance" rfl
    refine (fails ?_).2
    intro zero
    obtain ⟨_, _, acceptable, _⟩ := succeeds.mp zero
    cases unacceptable.symm.trans acceptable

end CommandLine

end Assay
