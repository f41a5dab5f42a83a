import Assay.Proofs.Http.Address
import Assay.Proofs.Metadata.Canonical
import Assay.Proofs.Metadata.Portability
import Assay.Proofs.Store.Directory
import Assay.Proofs.Store.Server

/-!
# Stores behind a server as versioned maps

A store behind a server that keeps definitions answers any sequence of saves and loads as a
versioned map does.  Every definition has an address of its own, and under its path the server
keeps what was saved last.
-/

namespace Assay

/-- Metadata that is read back from its text has portable parameters. -/
theorem Metadata.portable_of_survives
    {metadata : Metadata} (survives : decode.readText metadata.toJson.compact = .ok metadata) :
    ∀ parameter ∈ metadata.parameters, parameter.Portable := by
  have ordered : ∀ parameter ∈ metadata.parameters, parameter.Ordered := by
    intro parameter member default given
    obtain ⟨part, _, decoded⟩ := Json.Decoder.exists_source_of_mem
      (parameters_of_decode (Json.Decoder.readText_eq_ok survives)) member
    exact ⟨_, (Parameter.canonical_of_decode decoded).2.1 default given⟩
  exact portable_of_readText ordered (Json.Value.toList_compact metadata.toJson) survives
    (sameDefinition_refl metadata)

namespace Remote

/-! ## Addresses of definitions -/

/-- A store whose requests can be sent: its key can stand in a header, the time that a request
may take can be counted, and its base is an address of the web without query and fragment. -/
structure IsUsable (remote : Remote) : Prop where
  key : remote.apiKey.toList.all isHeaderCharacter = true
  timed : remote.isTimed = true
  base : ∃ home, Url.parse (remote.address "/") = .ok home ∧
    (home.scheme = "http" ∨ home.scheme = "https") ∧ home.query = none ∧ home.fragment = none

variable {remote : Remote}

/-- What stands between the slash behind the base and the one before a definition's name. -/
def folderPath (remote : Remote) : List Char :=
  "api/v2/project/".toList ++ Text.PercentEncoding.encodeList remote.project.toList ++
    "/tests".toList

theorem toList_definitionPath (remote : Remote) (identity : Identity) :
    (remote.definitionPath identity).toList =
      '/' :: (remote.folderPath ++
        '/' :: Text.PercentEncoding.encodeList identity.text.toList) := by
  have joined : remote.definitionPath identity =
      "/api/v2/project/" ++ Text.PercentEncoding.encode remote.project ++ "/tests" ++
        "/" ++ Text.PercentEncoding.encode identity.text := rfl
  rw [joined, String.toList_append, String.toList_append, String.toList_append,
    String.toList_append, Text.PercentEncoding.toList_encode identity.text,
    Text.PercentEncoding.toList_encode remote.project, List.append_assoc]
  rfl

theorem isPath_folderPath (remote : Remote) : Url.IsPath remote.folderPath := by
  have project : Url.IsPath "api/v2/project/".toList := List.all_eq_true.mp rfl
  have tests : Url.IsPath "/tests".toList := List.all_eq_true.mp rfl
  exact List.forall_mem_append.mpr ⟨List.forall_mem_append.mpr
    ⟨project, Text.PercentEncoding.isPath_encodeList _⟩, tests⟩

theorem isPath_definitionPath (remote : Remote) (identity : Identity) :
    Url.IsPath
      (remote.folderPath ++ '/' :: Text.PercentEncoding.encodeList identity.text.toList) := by
  refine List.forall_mem_append.mpr ⟨remote.isPath_folderPath, ?_⟩
  exact List.forall_mem_cons.mpr
    ⟨Url.slash_isPathCharacter, Text.PercentEncoding.isPath_encodeList _⟩

/-- The path of a definition's address, on whatever project, ends in the name of the
definition, and the rest of it does not depend on the definition. -/
theorem IsUsable.addresses (usable : remote.IsUsable) :
    ∃ folder : String, ∀ identity : Identity, identity.text ≠ "." →
      ∃ url, Url.parse (remote.address (remote.definitionPath identity)) = .ok url ∧
        (url.scheme = "http" ∨ url.scheme = "https") ∧
        url.path = folder ++ "/" ++ Text.PercentEncoding.encode identity.text := by
  obtain ⟨home, parsed, web, noQuery, noFragment⟩ := usable.base
  have isWeb : Url.formOf home.scheme = .web := Url.formOf_of_web web
  have addressed : ∀ path, Url.parse (remote.address path) =
      Url.parseList (withoutTrailingSlashes remote.base.toList ++ path.toList) := by
    intro path
    rw [Url.parse, address, String.toList_ofList]
  rw [addressed] at parsed
  obtain ⟨inner, _, grown⟩ := Url.parseList_grown parsed isWeb noQuery noFragment
  let outer := Url.encodeSegments
    ((Text.pieces '/' (inner ++ remote.folderPath)).foldl Url.resolveFolder [])
  refine ⟨String.join (outer.map ("/" ++ ·)), ?_⟩
  intro identity notDot
  obtain ⟨notSingle, notDouble⟩ :=
    Text.PercentEncoding.notDots_encodeList notDot identity.text_ne_outer
  have segments : Url.encodeSegments (Url.segmentsOf (inner ++
      (remote.folderPath ++ '/' :: Text.PercentEncoding.encodeList identity.text.toList))) =
      outer ++ [Text.PercentEncoding.encode identity.text] := by
    rw [← List.append_assoc, Url.segmentsOf_concat
      (Text.PercentEncoding.slash_not_mem_encodeList _) notSingle notDouble, Url.encodeSegments,
      List.map_append, List.map_singleton, Url.escape,
      Url.escape_of_isPath (Text.PercentEncoding.isPath_encodeList _)]
    rfl
  have there := grown _ (remote.isPath_definitionPath identity)
  rw [segments, ← toList_definitionPath, ← addressed] at there
  exact ⟨_, there, web, Url.path_concat home outer _⟩

/-- Definitions are told apart by the paths of their addresses. -/
theorem IsUsable.path_ne
    (usable : remote.IsUsable) {identity other : Identity} {url otherUrl : Url}
    (notDot : identity.text ≠ ".") (otherNotDot : other.text ≠ ".")
    (parsed : Url.parse (remote.address (remote.definitionPath identity)) = .ok url)
    (otherParsed : Url.parse (remote.address (remote.definitionPath other)) = .ok otherUrl)
    (different : identity ≠ other) : url.path ≠ otherUrl.path := by
  obtain ⟨folder, addresses⟩ := usable.addresses
  obtain ⟨found, there, _, path⟩ := addresses identity notDot
  obtain ⟨otherFound, otherThere, _, otherPath⟩ := addresses other otherNotDot
  obtain rfl : found = url := Except.ok.inj (there.symm.trans parsed)
  obtain rfl : otherFound = otherUrl := Except.ok.inj (otherThere.symm.trans otherParsed)
  intro same
  rw [path, otherPath, String.append_right_inj] at same
  exact different (Identity.text_injective (Text.PercentEncoding.encode_injective same))

theorem IsUsable.prepare
    (usable : remote.IsUsable) (method : Method) {path : String} (body : Option String) {url : Url}
    (parsed : Url.parse (remote.address path) = .ok url)
    (web : url.scheme = "http" ∨ url.scheme = "https") :
    remote.prepare method path body = .ok ⟨method, url, remote.apiKey, body⟩ := by
  have known : ¬(url.scheme ≠ "http" ∧ url.scheme ≠ "https") := by
    rcases web with http | https
    · simp [http]
    · simp [https]
  simp only [Remote.prepare, usable.key, usable.timed, parsed, if_neg known]
  rfl

end Remote

/-! ## Saves and loads -/

inductive Visit where
  | save (metadata : Metadata) (payload : Payload)
  | load (identity : Identity)

namespace Visit

def request : Visit → StoreRequest
  | .save metadata payload => .save metadata payload
  | .load identity => .load identity

def identity : Visit → Identity
  | .save metadata _ => metadata.identity
  | .load identity => identity

def saves (visit : Visit) : Ledger := visit.request.saves

end Visit

namespace DefinitionStore

variable {σ : Type}

def visit (store : DefinitionStore σ) (state : σ) : Visit → CallResult σ StoreAnswer
  | .save metadata payload =>
      let (result, later) := store.save metadata payload state
      (result.map .version, later)
  | .load identity =>
      let (result, later) := store.load identity state
      (result.map .metadata, later)

def visitAll (store : DefinitionStore σ) :
    List Visit → σ → List (Except CallFailure StoreAnswer) × σ
  | [], state => ([], state)
  | visit :: rest, state =>
      let (first, state) := store.visit state visit
      let (others, state) := store.visitAll rest state
      (first :: others, state)

end DefinitionStore

namespace Ledger

/-- The answer to a save or a load after the saves of a ledger.  Versions are counted in 32
bits. -/
def answerTo (ledger : Ledger) : Visit → StoreAnswer
  | .save metadata _ => .version (.ofNat ((ledger.of metadata.identity).length + 1))
  | .load identity => .metadata (ledger.latest? identity)

def answersTo : Ledger → List Visit → List StoreAnswer
  | _, [] => []
  | ledger, visit :: rest => ledger.answerTo visit :: answersTo (ledger ++ visit.saves) rest

end Ledger

namespace Remote

variable {remote : Remote} {server : Server} {ledger : Ledger}

/-- What is kept for a definition is found under its path, and what was found under the paths
of the others stays there. -/
theorem IsUsable.find?_keep
    (usable : remote.IsUsable) {identity kept : Identity} {url keptUrl : Url}
    (keptNotDot : kept.text ≠ ".") (notDot : identity.text ≠ ".")
    (keptParsed : Url.parse (remote.address (remote.definitionPath kept)) = .ok keptUrl)
    (parsed : Url.parse (remote.address (remote.definitionPath identity)) = .ok url)
    (metadata : Metadata) (payload : Payload) :
    (server.keep keptUrl.path metadata payload).find? url.path =
      if identity = kept then some (metadata, payload) else server.find? url.path := by
  split
  · rename_i same
    subst same
    obtain rfl : keptUrl = url := Except.ok.inj (keptParsed.symm.trans parsed)
    simp
  · rename_i different
    simp [usable.path_ne notDot keptNotDot parsed keptParsed different]

@[simp] theorem bodyOf_answer (spacing : Json.Spacing) (content : Json.Value) :
    bodyOf (Server.answer spacing content) = .ok (Server.answer spacing content).body := rfl

/-- Under the path of every definition's address the server keeps what was saved last. -/
structure Keeps (remote : Remote) (server : Server) (ledger : Ledger) : Prop where
  metadata : ∀ identity url, identity.text ≠ "." →
    Url.parse (remote.address (remote.definitionPath identity)) = .ok url →
      (server.find? url.path).map (·.1) = ledger.latest? identity
  payloads : ∀ identity url, identity.text ≠ "." →
    Url.parse (remote.address (remote.definitionPath identity)) = .ok url →
      (server.find? url.path).map (·.2) = ledger.payload? identity

theorem keeps_empty (remote : Remote) : remote.Keeps .empty [] where
  metadata := fun _ _ _ _ => rfl
  payloads := fun _ _ _ _ => rfl

namespace Keeps

theorem after_save
    (keeps : remote.Keeps server ledger) (usable : remote.IsUsable)
    {metadata : Metadata} (notDot : metadata.identity.text ≠ ".") {url : Url}
    (parsed : Url.parse (remote.address (remote.definitionPath metadata.identity)) = .ok url)
    (payload : Payload) :
    let version : Version := .ofNat ((ledger.of metadata.identity).length + 1)
    remote.Keeps (server.keep url.path (metadata.withVersion version) payload)
      (ledger ++ [(metadata, payload)]) := by
  intro version
  constructor
  · intro identity other otherNotDot otherParsed
    rw [usable.find?_keep notDot otherNotDot parsed otherParsed]
    split
    · rename_i same
      rw [same, Ledger.latest?_save]
      rfl
    · rename_i different
      rw [Ledger.latest?_save_of_ne (Ne.symm different)]
      exact keeps.metadata identity other otherNotDot otherParsed
  · intro identity other otherNotDot otherParsed
    rw [usable.find?_keep notDot otherNotDot parsed otherParsed]
    split
    · rename_i same
      rw [same, Ledger.payload?_save]
      rfl
    · rename_i different
      rw [Ledger.payload?_save_of_ne (Ne.symm different)]
      exact keeps.payloads identity other otherNotDot otherParsed

/-- A load is answered with what the server keeps, or with nothing. -/
theorem load_eq
    (keeps : remote.Keeps server ledger) (usable : remote.IsUsable)
    (survive : ∀ save ∈ ledger, ∀ parameter ∈ save.1.parameters, parameter.Portable)
    {identity : Identity} (notDot : identity.text ≠ ".") (spacing : Json.Spacing) :
    remote.load (Server.exchange spacing) identity server =
      (.ok (ledger.latest? identity), server) := by
  obtain ⟨_, addresses⟩ := usable.addresses
  obtain ⟨url, parsed, web, _⟩ := addresses identity notDot
  have kept := keeps.metadata identity url notDot parsed
  simp only [load, call, usable.prepare .get none parsed web, Server.exchange]
  cases found : server.find? url.path with
  | none =>
      rw [found] at kept
      rw [← kept]
      rfl
  | some entry =>
      obtain ⟨metadata, payload⟩ := entry
      rw [found] at kept
      have latest : ledger.latest? identity = some metadata := kept.symm
      have portable : ∀ parameter ∈ metadata.parameters, parameter.Portable := by
        obtain ⟨save, saved, _, rfl⟩ := Ledger.save_of_latest? latest
        exact survive save saved
      have read := Server.readText_kept portable spacing
      simp only [bodyOf_answer, readBody, read, latest]
      rfl

theorem save_eq
    (keeps : remote.Keeps server ledger) (usable : remote.IsUsable)
    {metadata : Metadata} (notDot : metadata.identity.text ≠ ".")
    (portable : ∀ parameter ∈ metadata.parameters, parameter.Portable)
    {url : Url}
    (parsed : Url.parse (remote.address (remote.definitionPath metadata.identity)) = .ok url)
    (web : url.scheme = "http" ∨ url.scheme = "https")
    (payload : Payload) (spacing : Json.Spacing) :
    let version : Version := .ofNat ((ledger.of metadata.identity).length + 1)
    remote.save (Server.exchange spacing) metadata payload server =
      (.ok version, server.keep url.path (metadata.withVersion version) payload) := by
  intro version
  have next : Directory.nextVersion ((server.find? url.path).map (·.1)) = version := by
    rw [keeps.metadata _ url notDot parsed, Directory.nextVersion_latest?]
  have arrives := Server.readSave?_saveBody portable payload
  have told := Server.readText_savedJson spacing version
  simp only [save, call, usable.prepare .put _ parsed web, Server.exchange, Option.bind_some,
    arrives, next, bodyOf_answer, readBody, told]
  rfl

/-- A save or a load gets its answer, and the server then keeps the ledger with what was
saved. -/
theorem visit
    (keeps : remote.Keeps server ledger) (usable : remote.IsUsable)
    (survive : ∀ save ∈ ledger, ∀ parameter ∈ save.1.parameters, parameter.Portable)
    {visit : Visit} (notDot : visit.identity.text ≠ ".")
    (portable : ∀ save ∈ visit.saves, ∀ parameter ∈ save.1.parameters, parameter.Portable)
    (spacing : Json.Spacing) :
    ∃ later, (remote.store (Server.exchange spacing)).visit server visit =
        (.ok (ledger.answerTo visit), later) ∧ remote.Keeps later (ledger ++ visit.saves) := by
  cases visit with
  | load identity =>
      have loaded : remote.load (Server.exchange spacing) identity server =
          (.ok (ledger.latest? identity), server) :=
        keeps.load_eq usable survive notDot spacing
      have nothing : (Visit.load identity).saves = [] := rfl
      refine ⟨server, ?_, ?_⟩
      · simp only [DefinitionStore.visit, store, loaded]
        rfl
      · rw [nothing, List.append_nil]
        exact keeps
  | save metadata payload =>
      obtain ⟨_, addresses⟩ := usable.addresses
      obtain ⟨url, parsed, web, _⟩ := addresses metadata.identity notDot
      have saved := keeps.save_eq usable notDot (portable (metadata, payload) List.mem_cons_self)
        parsed web payload spacing
      refine ⟨_, ?_, keeps.after_save usable notDot parsed payload⟩
      simp only [DefinitionStore.visit, store, saved]
      rfl

/-- All saves and loads get their answers, one after the other. -/
theorem visitAll
    (keeps : remote.Keeps server ledger) (usable : remote.IsUsable)
    (survive : ∀ save ∈ ledger, ∀ parameter ∈ save.1.parameters, parameter.Portable)
    {visits : List Visit} (notDot : ∀ visit ∈ visits, visit.identity.text ≠ ".")
    (portable : ∀ visit ∈ visits, ∀ save ∈ visit.saves,
      ∀ parameter ∈ save.1.parameters, parameter.Portable)
    (spacing : Json.Spacing) :
    ∃ final, (remote.store (Server.exchange spacing)).visitAll visits server =
        ((ledger.answersTo visits).map .ok, final) ∧
      remote.Keeps final (ledger ++ visits.flatMap (·.saves)) := by
  induction visits generalizing server ledger with
  | nil =>
      refine ⟨server, rfl, ?_⟩
      rw [List.flatMap_nil, List.append_nil]
      exact keeps
  | cons visit visits induction =>
      obtain ⟨firstNotDot, restNotDot⟩ := List.forall_mem_cons.mp notDot
      obtain ⟨firstPortable, restPortable⟩ := List.forall_mem_cons.mp portable
      obtain ⟨later, visited, keepsLater⟩ :=
        keeps.visit usable survive firstNotDot firstPortable spacing
      obtain ⟨final, visitedAll, keepsFinal⟩ := induction keepsLater
        (List.forall_mem_append.mpr ⟨survive, firstPortable⟩) restNotDot restPortable
      refine ⟨final, ?_, ?_⟩
      · simp only [DefinitionStore.visitAll, visited, visitedAll]
        rfl
      · rw [List.flatMap_cons, ← List.append_assoc]
        exact keepsFinal

end Keeps

end Remote

namespace Ledger

theorem ofRequests_visits (visits : List Visit) :
    ofRequests (visits.map (·.request)) = visits.flatMap (·.saves) :=
  List.flatMap_map _ _ visits

theorem answersTo_concat (ledger : Ledger) (visits : List Visit) (visit : Visit) :
    ledger.answersTo (visits ++ [visit]) =
      ledger.answersTo visits ++ [Ledger.answerTo (ledger ++ visits.flatMap (·.saves)) visit] := by
  induction visits generalizing ledger with
  | nil => rw [List.flatMap_nil, List.append_nil]; rfl
  | cons first visits induction =>
      rw [List.cons_append, answersTo, answersTo, induction, List.flatMap_cons, List.append_assoc]
      rfl

/-- As long as versions can be counted, the answers are those of a versioned map. -/
theorem answersAll_answersTo
    {visits : List Visit}
    (few : ∀ identity, (Ledger.of (visits.flatMap (·.saves)) identity).length < UInt32.size) :
    AnswersAll (visits.map (·.request)) (answersTo [] visits) := by
  induction visits using List.reverseRecOn with
  | nil => exact .none
  | append_singleton visits visit induction =>
      have fewEarlier : ∀ identity,
          (Ledger.of (visits.flatMap (·.saves)) identity).length < UInt32.size := by
        intro identity
        refine Nat.lt_of_le_of_lt ?_ (few identity)
        simp [Ledger.of]
      rw [List.map_append, answersTo_concat, List.nil_append]
      refine .next (induction fewEarlier) ?_
      rw [ofRequests_visits]
      cases visit with
      | load identity => rfl
      | save metadata payload =>
          have bound := few metadata.identity
          have later : (visits ++ [Visit.save metadata payload]).flatMap (·.saves) =
              visits.flatMap (·.saves) ++ [(metadata, payload)] := by
            rw [List.flatMap_append, List.flatMap_singleton]
            rfl
          rw [later, of_save, List.length_append, List.length_singleton] at bound
          exact UInt32.toNat_ofNat_of_lt' bound

end Ledger

namespace Remote

/-- A store behind a server that keeps definitions, for whatever project, refines a versioned
map.  Every save and every load is answered as the saves before it ask for; a save with the
number of saves of its definition, as long as that can be counted.  In the end the server
keeps, under the path of each definition, the metadata of the last save with its version, and
every byte of its payload.  The dot is the one identity whose address is not its own. -/
theorem visitAll_refines_ledger
    (remote : Remote)
    (spacing : Json.Spacing)
    (visits : List Visit)
    (usable : remote.IsUsable)
    (addressed : ∀ visit ∈ visits, visit.identity.text ≠ ".")
    (survive : ∀ visit ∈ visits, ∀ save ∈ visit.saves,
      Metadata.decode.readText save.1.toJson.compact = .ok save.1) :
    let saves := Ledger.ofRequests (visits.map (·.request))
    ∃ answers final,
      (remote.store (Server.exchange spacing)).visitAll visits .empty =
          (answers.map .ok, final) ∧
        answers = Ledger.answersTo [] visits ∧
        ((∀ identity, (saves.of identity).length < UInt32.size) →
          Ledger.AnswersAll (visits.map (·.request)) answers) ∧
        ∀ identity, identity.text ≠ "." →
          ∃ url, Url.parse (remote.address (remote.definitionPath identity)) = .ok url ∧
            (final.find? url.path).map (·.1) = saves.latest? identity ∧
            (final.find? url.path).map (·.2) = saves.payload? identity := by
  intro saves
  have same : saves = visits.flatMap (·.saves) := Ledger.ofRequests_visits visits
  have portable : ∀ visit ∈ visits, ∀ save ∈ visit.saves,
      ∀ parameter ∈ save.1.parameters, parameter.Portable := fun visit member save saved =>
    Metadata.portable_of_survives (survive visit member save saved)
  obtain ⟨final, visited, keeps⟩ := (keeps_empty remote).visitAll usable
    (List.forall_mem_nil _) addressed portable spacing
  refine ⟨_, final, visited, rfl, ?counted, ?kept⟩
  case counted =>
    intro few
    rw [same] at few
    exact Ledger.answersAll_answersTo few
  case kept =>
    intro identity notDot
    obtain ⟨_, addresses⟩ := usable.addresses
    obtain ⟨url, parsed, _⟩ := addresses identity notDot
    rw [List.nil_append, ← same] at keeps
    exact ⟨url, parsed, keeps.metadata identity url notDot parsed,
      keeps.payloads identity url notDot parsed⟩

/-- A store on the own machine, for a project whose name is dots. -/
def loopback : Remote := ⟨"http://[::1]:9000/", "key", "..", 10, 600⟩

theorem isUsable_loopback : loopback.IsUsable where
  key := rfl
  timed := rfl
  base := ⟨_, rfl, .inl rfl, rfl, rfl⟩

/-- Two definitions are saved, one of them twice, and one is loaded before and after. -/
def loopbackVisits : List Visit :=
  let tolerance := Metadata.withinTolerance
  let distance := { tolerance with identity := ⟨"distance", by decide⟩, name := "distance" }
  [.load tolerance.identity,
    .save tolerance ⟨#[1]⟩,
    .save distance ⟨#[]⟩,
    .save tolerance ⟨#[0, 255, 2]⟩,
    .load tolerance.identity]

theorem visitAll_loopback :
    loopback.IsUsable ∧
      ∃ final,
        (loopback.store (Server.exchange .indented)).visitAll loopbackVisits .empty =
            ([.metadata none, .version 1, .version 1, .version 2,
              .metadata (some (Metadata.withinTolerance.withVersion 2))].map .ok, final) ∧
          ∃ url, Url.parse (loopback.address
              (loopback.definitionPath Metadata.withinTolerance.identity)) = .ok url ∧
            (final.find? url.path).map (·.2) = some ⟨#[0, 255, 2]⟩ := by
  have addressed : ∀ visit ∈ loopbackVisits, visit.identity.text ≠ "." := by
    decide
  have survive : ∀ visit ∈ loopbackVisits, ∀ save ∈ visit.saves,
      Metadata.decode.readText save.1.toJson.compact = .ok save.1 := by
    have tolerance := Metadata.readText_of_print Metadata.portable_withinTolerance
      (Json.Value.toList_compact Metadata.withinTolerance.toJson)
    have distance := @Metadata.readText_of_print
      { Metadata.withinTolerance with identity := ⟨"distance", by decide⟩, name := "distance" }
      Metadata.portable_withinTolerance .compact _ (Json.Value.toList_compact _)
    have none : ∀ save ∈ ([] : Ledger),
        Metadata.decode.readText save.1.toJson.compact = .ok save.1 := List.forall_mem_nil _
    rw [loopbackVisits]
    refine List.forall_mem_cons.mpr ⟨none, ?_⟩
    refine List.forall_mem_cons.mpr ⟨List.forall_mem_singleton.mpr tolerance, ?_⟩
    refine List.forall_mem_cons.mpr ⟨List.forall_mem_singleton.mpr distance, ?_⟩
    refine List.forall_mem_cons.mpr ⟨List.forall_mem_singleton.mpr tolerance, ?_⟩
    exact List.forall_mem_singleton.mpr none
  obtain ⟨answers, final, visited, rfl, _, kept⟩ := visitAll_refines_ledger loopback .indented
    loopbackVisits isUsable_loopback addressed survive
  obtain ⟨url, parsed, _, payload⟩ := kept Metadata.withinTolerance.identity (by decide)
  exact ⟨isUsable_loopback, final, visited, url, parsed, payload⟩

end Remote

end Assay
