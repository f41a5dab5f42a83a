import Assay.Proofs.Json.SingleField
import Assay.Proofs.Registry.Failure
import Assay.Proofs.Registry.Loading
import Assay.Proofs.Store.Remote

/-!
# What the answers of a server come to

Only an accepted answer gives a call what its body carries, and only the answer that nothing is
there counts as the absence of a definition.  Every other answer is an error, by its status or
by the form of its body.  A registry that asks the server changes by nothing but the metadata
or the version that an accepted answer carries.
-/

namespace Assay

/-- The error that the status of an answer stands for. -/
inductive Response.Refuses (response : Response) : StoreError → Prop where
  | unauthorized (status : response.status = 401 ∨ response.status = 403) :
      Refuses response .unauthorized
  | notFound (status : response.status = 404) : Refuses response (.notFound response.body)
  | api (status : 400 ≤ response.status) (other : response.status ∉ [401, 403, 404]) :
      Refuses response (.api response.status response.body)

namespace Response.Refuses

variable {response : Response} {error other : StoreError}

theorem le_status (refuses : response.Refuses error) : 400 ≤ response.status := by
  cases refuses with
  | unauthorized status => omega
  | notFound status => omega
  | api status _ => exact status

theorem unique
    (refuses : response.Refuses error) (again : response.Refuses other) : error = other := by
  cases refuses with
  | unauthorized status =>
      cases again with
      | unauthorized => rfl
      | notFound status => omega
      | api _ unknown => rcases status with status | status <;> simp [status] at unknown
  | notFound status =>
      cases again with
      | unauthorized otherStatus => omega
      | notFound => rfl
      | api _ unknown => simp [status] at unknown
  | api _ unknown =>
      cases again with
      | unauthorized status => rcases status with status | status <;> simp [status] at unknown
      | notFound status => simp [status] at unknown
      | api => rfl

end Response.Refuses

namespace Remote

variable {σ α : Type} {remote : Remote} {send : Transport σ} {response : Response}
  {state later : σ} {error : StoreError}

/-! ## Bodies -/

/-- A body that is an object with a version among other members, or an array of a version. -/
def GivesVersion (body : String) (version : Version) : Prop :=
  Json.TextHolds (Json.GivesAlone "version" (· = .number (.ofUInt32 version))) body

/-- A body that is an object with a list of metadata among other members, or an array of such a
list. -/
def GivesDefinitions (body : String) (definitions : List Metadata) : Prop :=
  Json.TextHolds (Json.GivesAlone "tests" fun part =>
    Json.Decoder.list Metadata.decode (.text (Json.textLevels - 1)) part = .ok definitions) body

theorem savedShape_keepsOnly :
    savedShape.KeepsOnly "version" .natural32 (·.version) fun version _ => ⟨some version⟩ where
  fields := rfl
  kept := fun _ _ => rfl
  blank := rfl
  finish := fun _ => rfl

theorem listingShape_keepsOnly :
    listingShape.KeepsOnly "tests" (.list Metadata.decode) (·.definitions)
      fun definitions _ => ⟨some definitions⟩ where
  fields := rfl
  kept := fun _ _ => rfl
  blank := rfl
  finish := fun _ => rfl

theorem readText_savedShape_iff (body : String) (version : Version) :
    savedShape.decode.readText body = .ok version ↔ GivesVersion body version := by
  have whole : ∀ source, savedShape.decode (.text Json.textLevels) source = .ok version ↔
      Json.GivesAlone "version" (· = .number (.ofUInt32 version)) source := by
    intro source
    simp only [Json.textLevels, savedShape_keepsOnly.decode_eq_ok_iff,
      Json.Decoder.natural32_eq_ok_iff]
  rw [Json.Decoder.readText_eq_ok_iff, GivesVersion]
  simp only [whole]

theorem readText_listingShape_iff (body : String) (definitions : List Metadata) :
    listingShape.decode.readText body = .ok definitions ↔ GivesDefinitions body definitions := by
  have whole : ∀ source, listingShape.decode (.text Json.textLevels) source = .ok definitions ↔
      Json.GivesAlone "tests" (fun part =>
        Json.Decoder.list Metadata.decode (.text (Json.textLevels - 1)) part =
          .ok definitions) source :=
    fun _ => listingShape_keepsOnly.decode_eq_ok_iff
  rw [Json.Decoder.readText_eq_ok_iff, GivesDefinitions]
  simp only [whole]

/-! ## Answers -/

/-- What an answer is taken for whose body is to be read. -/
inductive Taken (decode : Json.Decoder α) (response : Response) : Except StoreError α → Prop where
  | given {content : α} (accepted : response.status < 400)
      (read : decode.readText response.body = .ok content) : Taken decode response (.ok content)
  | wrongForm {error : Json.ReadError} (accepted : response.status < 400)
      (unread : ∀ content, decode.readText response.body ≠ .ok content) :
      Taken decode response (.error (.json error))
  | refused {error : StoreError} (refuses : response.Refuses error) :
      Taken decode response (.error error)

/-- An answer is read if it is accepted. -/
def take (decode : Json.Decoder α) (response : Response) : Except StoreError α :=
  bodyOf response >>= readBody decode

theorem taken (decode : Json.Decoder α) (response : Response) :
    Taken decode response (take decode response) := by
  rw [take, bodyOf]
  split
  · rename_i accepted
    change Taken decode response (readBody decode response.body)
    rw [readBody]
    cases read : decode.readText response.body with
    | ok content => exact .given accepted read
    | error error =>
        refine .wrongForm accepted fun content given => ?_
        rw [read] at given
        cases given
  · rename_i declined
    split
    · rename_i status
      exact .refused (.unauthorized status)
    · rename_i authorized
      split
      · rename_i status
        exact .refused (.notFound status)
      · rename_i found
        refine .refused (.api (by omega) ?_)
        simp only [List.mem_cons, List.not_mem_nil, or_false, not_or]
        exact ⟨fun status => authorized (.inl status), fun status => authorized (.inr status), found⟩

/-! ## Calls that are answered -/

/-- A request of the store is sent and answered. -/
def Receives (remote : Remote) (send : Transport σ) (method : Method) (path : String)
    (body : Option String) (state : σ) (response : Response) (later : σ) : Prop :=
  ∃ request, remote.prepare method path body = .ok request ∧
    send request state = (.ok response, later)

theorem Receives.call_eq
    {method : Method} {path : String} {body : Option String}
    (received : remote.Receives send method path body state response later) :
    remote.call send method path body state = (bodyOf response, later) := by
  obtain ⟨request, prepared, answered⟩ := received
  rw [call, prepared]
  dsimp only
  rw [answered]


theorem save_of_receives
    {metadata : Metadata} {payload : Payload}
    (received : remote.Receives send .put (remote.definitionPath metadata.identity)
      (some (saveBody metadata payload).compact) state response later) :
    remote.save send metadata payload state = answer (take savedShape.decode response, later) := by
  rw [save, received.call_eq, take]
  cases bodyOf response <;> rfl

theorem list_of_receives
    (received : remote.Receives send .get remote.listingPath none state response later) :
    remote.list send state = answer (take listingShape.decode response, later) := by
  rw [list, received.call_eq, take]
  cases bodyOf response <;> rfl

/-- The outcome of a load, by what its answer is taken for. -/
def loadOutcome : Except StoreError Metadata → Except CallFailure (Option Metadata)
  | .error (.notFound _) => .ok none
  | .error error => .error (.refused error)
  | .ok metadata => .ok (some metadata)

theorem loadOutcome_of_absent
    (refuses : response.Refuses error) (absent : response.status = 404) :
    loadOutcome (.error error) = .ok none := by
  obtain rfl := refuses.unique (.notFound absent)
  rfl

theorem loadOutcome_of_refuses
    (refuses : response.Refuses error) (present : response.status ≠ 404) :
    loadOutcome (.error error) = .error (.refused error) := by
  cases refuses with
  | unauthorized => rfl
  | notFound absent => exact absurd absent present
  | api => rfl

theorem load_of_receives
    {identity : Identity}
    (received : remote.Receives send .get (remote.definitionPath identity) none state response
      later) :
    remote.load send identity state = (loadOutcome (take Metadata.decode response), later) := by
  rw [load, received.call_eq, take]
  cases bodyOf response with
  | error error => cases error <;> rfl
  | ok body =>
      change answer ((readBody Metadata.decode body).map some, later) =
        (loadOutcome (readBody Metadata.decode body), later)
      rw [readBody]
      cases Metadata.decode.readText body <;> rfl

/-- A call comes to what the body of an accepted answer gives, to an error if it gives nothing,
and to the error of an answer that is not accepted. -/
structure ComesTo (response : Response) (Gives : α → Prop) (outcome : Except CallFailure α) :
    Prop where
  given : ∀ content, outcome = .ok content ↔ response.status < 400 ∧ Gives content
  wrongForm : (∃ error, outcome = .error (.refused (.json error))) ↔
    response.status < 400 ∧ ∀ content, ¬Gives content
  refused : ∀ error, response.Refuses error → outcome = .error (.refused error)

/-- A load comes to the metadata that the body of an accepted answer gives, and to nothing if
nothing is there. -/
structure LoadComesTo (response : Response) (outcome : Except CallFailure (Option Metadata)) :
    Prop where
  absent : outcome = .ok none ↔ response.status = 404
  found : ∀ metadata, outcome = .ok (some metadata) ↔
    response.status < 400 ∧ Metadata.decode.readText response.body = .ok metadata
  wrongForm : (∃ error, outcome = .error (.refused (.json error))) ↔
    response.status < 400 ∧ ∀ metadata, Metadata.decode.readText response.body ≠ .ok metadata
  refused : ∀ error, response.Refuses error → response.status ≠ 404 →
    outcome = .error (.refused error)

theorem comesTo_take
    {decode : Json.Decoder α} {Gives : α → Prop}
    (reads : ∀ content, decode.readText response.body = .ok content ↔ Gives content) :
    ComesTo response Gives (answer (take decode response, later)).1 := by
  have outcome := taken decode response
  generalize take decode response = result at outcome
  cases outcome with
  | @given content accepted read =>
      have gives := (reads content).mp read
      refine ⟨fun other => ⟨?_, ?_⟩, iff_of_false ?_ ?_, ?_⟩
      · intro same
        exact Except.ok.inj same ▸ ⟨accepted, gives⟩
      · rintro ⟨_, otherGives⟩
        obtain rfl := Except.ok.inj (read.symm.trans ((reads other).mpr otherGives))
        rfl
      · rintro ⟨_, ⟨⟩⟩
      · rintro ⟨_, nothing⟩
        exact nothing content gives
      · intro error refuses
        exact absurd refuses.le_status (Nat.not_le.mpr accepted)
  | @wrongForm error accepted unread =>
      have nothing : ∀ content, ¬Gives content :=
        fun content gives => unread content ((reads content).mpr gives)
      refine ⟨fun content => iff_of_false nofun ?_, iff_of_true ⟨error, rfl⟩ ⟨accepted, nothing⟩, ?_⟩
      · rintro ⟨_, gives⟩
        exact nothing content gives
      · intro error refuses
        exact absurd refuses.le_status (Nat.not_le.mpr accepted)
  | @refused error refuses =>
      have declined : ¬response.status < 400 := Nat.not_lt.mpr refuses.le_status
      refine ⟨fun content => iff_of_false nofun fun given => declined given.1,
        iff_of_false ?_ fun given => declined given.1, ?_⟩
      · rintro ⟨readError, same⟩
        cases same
        cases refuses
      · intro other otherRefuses
        rw [refuses.unique otherRefuses]
        rfl

theorem loadComesTo_take (response : Response) :
    LoadComesTo response (loadOutcome (take Metadata.decode response)) := by
  have outcome := taken Metadata.decode response
  generalize take Metadata.decode response = result at outcome
  cases outcome with
  | @given metadata accepted read =>
      refine ⟨iff_of_false nofun (by omega), fun other => ⟨?_, ?_⟩, iff_of_false ?_ ?_, ?_⟩
      · intro same
        obtain rfl := Option.some.inj (Except.ok.inj same)
        exact ⟨accepted, read⟩
      · rintro ⟨_, otherRead⟩
        obtain rfl := Except.ok.inj (read.symm.trans otherRead)
        rfl
      · rintro ⟨_, ⟨⟩⟩
      · rintro ⟨_, nothing⟩
        exact nothing metadata read
      · intro error refuses
        exact absurd refuses.le_status (Nat.not_le.mpr accepted)
  | @wrongForm error accepted unread =>
      refine ⟨iff_of_false nofun (by omega), fun metadata => iff_of_false nofun ?_,
        iff_of_true ⟨error, rfl⟩ ⟨accepted, unread⟩, ?_⟩
      · rintro ⟨_, read⟩
        exact unread metadata read
      · intro error refuses
        exact absurd refuses.le_status (Nat.not_le.mpr accepted)
  | @refused error refuses =>
      have declined : ¬response.status < 400 := Nat.not_lt.mpr refuses.le_status
      by_cases absent : response.status = 404
      · rw [loadOutcome_of_absent refuses absent]
        refine ⟨iff_of_true rfl absent, fun metadata => iff_of_false nofun fun found =>
          declined found.1, iff_of_false ?_ fun nothing => declined nothing.1, ?_⟩
        · rintro ⟨_, ⟨⟩⟩
        · exact fun _ _ present => absurd absent present
      · rw [loadOutcome_of_refuses refuses absent]
        refine ⟨iff_of_false nofun absent, fun metadata => iff_of_false nofun fun found =>
          declined found.1, iff_of_false ?_ fun nothing => declined nothing.1, ?_⟩
        · rintro ⟨readError, same⟩
          cases same
          cases refuses
        · intro other otherRefuses _
          rw [refuses.unique otherRefuses]

/-! ## Registries that ask a server -/

/-- What a load of a registry answers, and what registry it leaves, by the answer of the
server. -/
inductive LoadLeaves (registry : Registry) (identity : Identity) (response : Response) :
    Except CallFailure (Option Metadata) → Registry → Prop where
  | adopted {metadata : Metadata} (accepted : response.status < 400)
      (read : Metadata.decode.readText response.body = .ok metadata) :
      LoadLeaves registry identity response (.ok (some (registry.adopt metadata).1))
        (registry.adopt metadata).2
  | absent (status : response.status = 404) :
      LoadLeaves registry identity response (.ok (registry.find? identity)) registry
  | wrongForm {error : Json.ReadError} (accepted : response.status < 400)
      (unread : ∀ metadata, Metadata.decode.readText response.body ≠ .ok metadata) :
      LoadLeaves registry identity response (.error (.refused (.json error))) registry
  | refused {error : StoreError} (refuses : response.Refuses error)
      (present : response.status ≠ 404) :
      LoadLeaves registry identity response (.error (.refused error)) registry

/-- What a save of a registry answers for an entry without a version, and what registry it
leaves, by the answer of the server. -/
inductive SaveLeaves (registry : Registry) (identity : Identity) (response : Response) :
    Except CallFailure Version → Registry → Prop where
  | recorded {version : Version} (accepted : response.status < 400)
      (given : GivesVersion response.body version) :
      SaveLeaves registry identity response (.ok version)
        (registry.recordVersion identity version).2
  | wrongForm {error : Json.ReadError} (accepted : response.status < 400)
      (nothing : ∀ version, ¬GivesVersion response.body version) :
      SaveLeaves registry identity response (.error (.refused (.json error))) registry
  | refused {error : StoreError} (refuses : response.Refuses error) :
      SaveLeaves registry identity response (.error (.refused error)) registry

section

variable {registry : Registry} {identity : Identity}

theorem loadLeaves_of_receives
    (unversioned : registry.version? identity = none)
    (received : remote.Receives send .get (remote.definitionPath identity) none state response
      later) :
    ∃ outcome after,
      registry.load (remote.store send) identity state = (outcome, after, later) ∧
        LoadLeaves registry identity response outcome after := by
  have loaded : (remote.store send).load identity state = _ := load_of_receives received
  have outcome := taken Metadata.decode response
  generalize take Metadata.decode response = result at outcome loaded
  cases outcome with
  | given accepted read =>
      exact ⟨_, _, Registry.load_of_adopted unversioned loaded, .adopted accepted read⟩
  | @wrongForm error accepted unread =>
      have failed : registry.load (remote.store send) identity state = _ :=
        Registry.load_of_failed unversioned (congrArg Prod.fst loaded)
      rw [loaded] at failed
      exact ⟨_, _, failed, .wrongForm accepted unread⟩
  | refused refuses =>
      by_cases absent : response.status = 404
      · rw [loadOutcome_of_absent refuses absent] at loaded
        refine ⟨_, _, Registry.load_of_absent unversioned loaded, .absent absent⟩
      · rw [loadOutcome_of_refuses refuses absent] at loaded
        have failed : registry.load (remote.store send) identity state = _ :=
          Registry.load_of_failed unversioned (congrArg Prod.fst loaded)
        rw [loaded] at failed
        exact ⟨_, _, failed, .refused refuses absent⟩

theorem saveLeaves_of_receives
    {known : Metadata} {payload : Payload}
    (found : registry.find? identity = some known) (unversioned : known.version = none)
    (received : remote.Receives send .put (remote.definitionPath known.identity)
      (some (saveBody known payload).compact) state response later) :
    ∃ outcome after,
      registry.save (remote.store send) identity payload state = (outcome, after, later) ∧
        SaveLeaves registry identity response outcome after := by
  have saved : (remote.store send).save known payload state = _ := save_of_receives received
  have outcome := taken savedShape.decode response
  generalize take savedShape.decode response = result at outcome saved
  rw [Registry.save_eq_of_unversioned found unversioned, saved]
  cases outcome with
  | @given version accepted read =>
      refine ⟨_, _, rfl, ?_⟩
      have recorded := Registry.recordVersion_of_unversioned found unversioned version
      have given := (readText_savedShape_iff _ _).mp read
      have leaves : SaveLeaves registry identity response _ _ := .recorded accepted given
      rw [recorded] at leaves
      exact leaves
  | wrongForm accepted unread =>
      refine ⟨_, _, rfl, .wrongForm accepted fun version given => ?_⟩
      exact unread version ((readText_savedShape_iff _ _).mpr given)
  | refused refuses => exact ⟨_, _, rfl, .refused refuses⟩

/-- A registry that knows a version asks no server. -/
theorem leaves_of_version?
    {version : Version} (known : registry.version? identity = some version) (payload : Payload)
    (state : σ) :
    (registry.load (remote.store send) identity state).2 = (registry, state) ∧
      (registry.save (remote.store send) identity payload state).2 = (registry, state) := by
  constructor
  · rw [Registry.version?] at known
    simp only [Registry.load, known, Option.isSome_some, if_true]
  · rw [Registry.save_of_version? known]

end

/-! ## Whatever is answered -/

/-- Whatever a server answers to a call, absence and success are what the answer says, every
failure is an error, and a registry changes by what an accepted answer carries alone. -/
theorem answers_are_taken_as_given
    (remote : Remote) (send : Transport σ) (registry : Registry) (response : Response)
    (state later : σ) :
    (∀ identity,
      remote.Receives send .get (remote.definitionPath identity) none state response later →
        LoadComesTo response (remote.load send identity state).1 ∧
          (registry.version? identity = none → ∃ outcome after,
            registry.load (remote.store send) identity state = (outcome, after, later) ∧
              LoadLeaves registry identity response outcome after)) ∧
      (∀ metadata payload,
        remote.Receives send .put (remote.definitionPath metadata.identity)
            (some (saveBody metadata payload).compact) state response later →
          ComesTo response (GivesVersion response.body)
              (remote.save send metadata payload state).1 ∧
            ∀ identity, registry.find? identity = some metadata → metadata.version = none →
              ∃ outcome after,
                registry.save (remote.store send) identity payload state =
                    (outcome, after, later) ∧
                  SaveLeaves registry identity response outcome after) ∧
      (remote.Receives send .get remote.listingPath none state response later →
        ComesTo response (GivesDefinitions response.body) (remote.list send state).1) ∧
      (∀ identity payload, registry.version? identity ≠ none →
        (registry.load (remote.store send) identity state).2 = (registry, state) ∧
          (registry.save (remote.store send) identity payload state).2 = (registry, state)) := by
  refine ⟨?load, ?save, ?list, ?versioned⟩
  case load =>
    intro identity received
    refine ⟨?_, fun unversioned => loadLeaves_of_receives unversioned received⟩
    rw [load_of_receives received]
    exact loadComesTo_take response
  case save =>
    intro metadata payload received
    refine ⟨?_, fun identity found unversioned =>
      saveLeaves_of_receives found unversioned received⟩
    rw [save_of_receives received]
    exact comesTo_take (readText_savedShape_iff response.body)
  case list =>
    intro received
    rw [list_of_receives received]
    exact comesTo_take (readText_listingShape_iff response.body)
  case versioned =>
    intro identity payload known
    obtain ⟨version, known⟩ := Option.ne_none_iff_exists'.mp known
    exact leaves_of_version? known payload state

/-- A server that gives the same answer to every request, and counts them. -/
def answering (response : Response) : Transport Nat := fun _ count => (.ok response, count + 1)

/-- A version that stands behind a member that nobody knows. -/
def lateVersion : Json.Value :=
  .object [("note", .array [.null]), ("version", .number (.ofUInt32 7))]

theorem save_loopback_answered :
    let response := Server.answer .indented lateVersion
    let metadata := { Metadata.withinTolerance with version := none }
    let registry := Registry.empty.put metadata.identity metadata
    let send := answering response
    loopback.Receives send .put (loopback.definitionPath metadata.identity)
        (some (saveBody metadata .empty).compact) 0 response 1 ∧
      registry.find? metadata.identity = some metadata ∧ GivesVersion response.body 7 ∧
        (loopback.save send metadata .empty 0).1 = .ok 7 ∧
          ∃ outcome after,
            registry.save (loopback.store send) metadata.identity .empty 0 =
                (outcome, after, 1) ∧
              SaveLeaves registry metadata.identity response outcome after := by
  intro response metadata registry send
  have found : registry.find? metadata.identity = some metadata :=
    Registry.find?_put_self .empty metadata.identity metadata
  have legible : lateVersion.Legible := by
    apply Json.Value.Legible.object
    simp only [List.forall_mem_cons]
    exact ⟨.array (List.forall_mem_singleton.mpr .null),
      .number (Json.Number.readsBack_integer _ _), List.forall_mem_nil _⟩
  have given : GivesVersion response.body 7 := by
    refine ⟨.ofValue lateVersion, [], ?_, rfl, ?_⟩
    · rw [Server.toList_answer, Json.Source.read_print, Json.Source.reread_of_legible legible]
    · have skipped : Json.AreSkippable "version" [(.ok "note", .array [.null] none)] :=
        List.forall_mem_singleton.mpr ⟨⟨"note", rfl, by decide⟩, rfl⟩
      exact .object skipped (List.forall_mem_nil _) rfl
  have received : loopback.Receives send .put (loopback.definitionPath metadata.identity)
      (some (saveBody metadata .empty).compact) 0 response 1 := by
    obtain ⟨_, addresses⟩ := isUsable_loopback.addresses
    obtain ⟨url, parsed, web, _⟩ := addresses metadata.identity (by decide)
    exact ⟨_, isUsable_loopback.prepare .put _ parsed web, rfl⟩
  obtain ⟨_, saves, _⟩ := answers_are_taken_as_given loopback send registry response 0 1
  obtain ⟨comes, leaves⟩ := saves metadata .empty received
  exact ⟨received, found, given, (comes.given 7).mpr ⟨by decide, given⟩,
    leaves metadata.identity found rfl⟩

end Remote

end Assay
