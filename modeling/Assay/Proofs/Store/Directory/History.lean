import Assay.Proofs.Store.Directory

/-!
# Histories of stores in folders

Stores that are opened on one place, by whatever paths, answer any sequence of
requests as a versioned map does.  One request after the other, the volume holds
the ledger of the saves so far.
-/

namespace Assay.Directory

/-! ## Sequences of requests -/

section

variable {σ : Type}

/-- Make a request of the store below a root. -/
def perform (files : FileSystem σ) (root : Path) (state : σ) :
    StoreRequest → CallResult σ StoreAnswer
  | .save metadata content =>
      let (result, later) := save files root metadata content state
      (result.map .version, later)
  | .load identity =>
      let (result, later) := load files root identity state
      (result.map .metadata, later)
  | .payload identity =>
      let (result, later) := payload files root identity state
      (result.map .payload, later)
  | .list =>
      let (result, later) := list files root state
      (result.map .definitions, later)

/-- Make one request after the other, each of the store below a root of its
own. -/
def performAll (files : FileSystem σ) :
    List (Path × StoreRequest) → σ → List (Except CallFailure StoreAnswer) × σ
  | [], state => ([], state)
  | (root, request) :: rest, state =>
      let (first, state) := perform files root state request
      let (others, state) := performAll files rest state
      (first :: others, state)

theorem performAll_next
    (files : FileSystem σ) (requests : List (Path × StoreRequest)) (root : Path)
    (request : StoreRequest) (state : σ) :
    performAll files (requests ++ [(root, request)]) state =
      ((performAll files requests state).1 ++
          [(perform files root (performAll files requests state).2 request).1],
        (perform files root (performAll files requests state).2 request).2) := by
  induction requests generalizing state with
  | nil => rfl
  | cons first requests induction =>
      obtain ⟨firstRoot, firstRequest⟩ := first
      simp only [List.cons_append, performAll, induction]

end

variable {volume : Volume} {root : Path} {home : Location} {ledger : Ledger}
  {requests : List (Path × StoreRequest)}

/-- A place with nothing below it, to which no file is in the way. -/
structure Vacant (volume : Volume) (home : Location) : Prop where
  grounded : volume.Grounded
  free : volume.Free home
  empty : ∀ place, home <+: place → place ≠ home → volume.node? place = none

theorem Vacant.holds (vacant : Vacant volume home) : Holds volume home [] := by
  have empty : ∀ rest, volume.node? (definitionsPlace home ++ rest) = none := by
    intro rest
    apply vacant.empty
    · simp
    · simp
  refine ⟨vacant.grounded, ?_, ?_, ?_, ?_, [], List.nodup_nil, ?_, ?_⟩
  · intro outer inside content found
    rcases List.prefix_concat_iff.mp inside with rfl | inside
    · have none := empty []
      rw [List.append_nil] at none
      rw [none] at found
      contradiction
    · exact vacant.free outer inside content found
  · intro identity
    exact empty [identity.text]
  · intro identity
    simpa using empty [identity.text, "meta.json"]
  · intro identity
    simpa using empty [identity.text, "data.bin"]
  · intro identity
    simp
  · exact Volume.namesIn_eq_nil fun name => empty [name]

/-- Requests that stores on a place of a volume can serve: every root leads to
the place, every definition that is asked for can be addressed from every root,
what is saved survives, and no definition is saved too often. -/
structure Serves (volume : Volume) (home : Location)
    (requests : List (Path × StoreRequest)) : Prop where
  opens : ∀ entry ∈ requests, Opens volume entry.1 home
  addresses : ∀ entry ∈ requests, ∀ other ∈ requests,
    ∀ identity ∈ other.2.identity?, Addresses entry.1 identity
  survive : ∀ entry ∈ requests, ∀ save ∈ entry.2.saves, Survives save.1
  few : ∀ identity,
    ((Ledger.ofRequests (requests.map (·.2))).of identity).length < 4294967295

namespace Serves

theorem earlier
    {later : List (Path × StoreRequest)} (serves : Serves volume home (requests ++ later)) :
    Serves volume home requests where
  opens := fun entry member => serves.opens entry (List.mem_append_left _ member)
  addresses := fun entry member other otherMember =>
    serves.addresses entry (List.mem_append_left _ member) other
      (List.mem_append_left _ otherMember)
  survive := fun entry member => serves.survive entry (List.mem_append_left _ member)
  few := by
    intro identity
    refine Nat.lt_of_le_of_lt ?_ (serves.few identity)
    simp [Ledger.ofRequests, Ledger.of]

/-- What is in the ledger was saved by a request. -/
private theorem request_of_mem
    {save : Metadata × Payload}
    (saved : save ∈ Ledger.ofRequests (requests.map (·.2))) :
    ∃ entry ∈ requests, entry.2 = .save save.1 save.2 := by
  obtain ⟨entry, present, same⟩ := List.mem_map.mp (Ledger.mem_ofRequests.mp saved)
  exact ⟨entry, present, same⟩

theorem survive_saved
    (serves : Serves volume home requests) :
    ∀ save ∈ Ledger.ofRequests (requests.map (·.2)), Survives save.1 := by
  intro save saved
  obtain ⟨entry, present, same⟩ := request_of_mem saved
  exact serves.survive entry present save (by simp [same, StoreRequest.saves])

theorem addresses_saved
    (serves : Serves volume home requests) {entry : Path × StoreRequest}
    (member : entry ∈ requests) :
    ∀ save ∈ Ledger.ofRequests (requests.map (·.2)), Addresses entry.1 save.1.identity := by
  intro save saved
  obtain ⟨other, present, same⟩ := request_of_mem saved
  exact serves.addresses entry member other present _ (by simp [same, StoreRequest.identity?])

end Serves

/-! ## One request -/

/-- A request gets the answer that the ledger asks for, and the volume then holds
the ledger with what the request saved. -/
theorem Holds.perform
    (holds : Holds volume home ledger) (opens : Opens volume root home)
    (request : StoreRequest)
    (addresses : ∀ identity ∈ request.identity?, Addresses root identity)
    (known : ∀ save ∈ ledger, Addresses root save.1.identity)
    (survive : ∀ save ∈ ledger, Survives save.1)
    (few : ∀ identity, (Ledger.of (ledger ++ request.saves) identity).length < 4294967295) :
    ∃ answer later,
      perform Volume.files root volume request = (.ok answer, later) ∧
        ledger.Answers request answer ∧
          Holds later home (ledger ++ request.saves) ∧ volume.KeepsFolders later := by
  have unchanged : volume.KeepsFolders volume := ⟨rfl, fun _ folder => folder⟩
  cases request with
  | save metadata payload =>
      have saved := holds.save_eq opens (addresses metadata.identity rfl) survive payload
      refine ⟨_, _, by rw [Directory.perform, saved]; rfl, ?_, holds.after_save metadata payload,
        holds.keepsFolders_stored _ _ _⟩
      have bound := few metadata.identity
      rw [StoreRequest.saves, Ledger.of_save, List.length_append, List.length_singleton] at bound
      exact UInt32.toNat_ofNat_of_lt' (Nat.lt_trans bound (by decide))
  | load identity =>
      have loaded := holds.load_eq opens (addresses identity rfl) survive
      refine ⟨.metadata (ledger.latest? identity), volume,
        by rw [Directory.perform, loaded]; rfl, rfl, ?_, unchanged⟩
      simpa [StoreRequest.saves] using holds
  | payload identity =>
      have loaded := holds.payload_eq opens (addresses identity rfl)
      refine ⟨.payload (ledger.payload? identity), volume,
        by rw [Directory.perform, loaded]; rfl, rfl, ?_, unchanged⟩
      simpa [StoreRequest.saves] using holds
  | list =>
      obtain ⟨listing, lists, listed⟩ := holds.list_eq opens known survive
      refine ⟨.definitions listing, volume,
        by rw [Directory.perform, listed]; rfl, lists, ?_, unchanged⟩
      simpa [StoreRequest.saves] using holds

/-- A save of one definition does not change what is loaded for another. -/
theorem Holds.load_save_of_ne
    {metadata : Metadata} {content : Payload} {identity : Identity} {reader : Path}
    (holds : Holds volume home ledger) (opens : Opens volume root home)
    (addresses : Addresses root metadata.identity)
    (survive : ∀ save ∈ ledger ++ [(metadata, content)], Survives save.1)
    (opensReader : Opens volume reader home) (addressesReader : Addresses reader identity)
    (different : identity ≠ metadata.identity) :
    let after := (save Volume.files root metadata content volume).2
    (load Volume.files reader identity after).1 =
        (load Volume.files reader identity volume).1 ∧
      (payload Volume.files reader identity after).1 =
        (payload Volume.files reader identity volume).1 := by
  intro after
  have surviveBefore : ∀ save ∈ ledger, Survives save.1 := fun save member =>
    survive save (List.mem_append_left _ member)
  have stored := holds.after_save metadata content
  have keeps := holds.keepsFolders_stored metadata.identity
    (encodeMetadata (metadata.withVersion
      (.ofNat ((ledger.of metadata.identity).length + 1)))) content
  have saved := congrArg Prod.snd (holds.save_eq opens addresses surviveBefore content)
  simp only [after, saved]
  rw [stored.load_eq (opensReader.later keeps) addressesReader survive,
    stored.payload_eq (opensReader.later keeps) addressesReader,
    holds.load_eq opensReader addressesReader surviveBefore,
    holds.payload_eq opensReader addressesReader,
    Ledger.latest?_save_of_ne (Ne.symm different),
    Ledger.payload?_save_of_ne (Ne.symm different)]
  exact ⟨rfl, rfl⟩

/-! ## All requests -/

/-- After any requests the volume holds the ledger of the saves among them. -/
theorem performAll_holds
    (vacant : Vacant volume home) (serves : Serves volume home requests) :
    ∃ answers later,
      performAll Volume.files requests volume = (answers.map .ok, later) ∧
        Ledger.AnswersAll (requests.map (·.2)) answers ∧
          Holds later home (.ofRequests (requests.map (·.2))) ∧
            volume.KeepsFolders later := by
  induction requests using List.reverseRecOn with
  | nil =>
      exact ⟨[], volume, rfl, .none, vacant.holds, rfl, fun _ folder => folder⟩
  | append_singleton requests entry induction =>
      obtain ⟨root, request⟩ := entry
      obtain ⟨answers, middle, performed, answered, holds, keeps⟩ := induction serves.earlier
      have last : (root, request) ∈ requests ++ [(root, request)] :=
        List.mem_append_right _ List.mem_cons_self
      have ledgerNext : Ledger.ofRequests ((requests ++ [(root, request)]).map (·.2)) =
          Ledger.ofRequests (requests.map (·.2)) ++ request.saves := by
        rw [List.map_append, List.map_singleton, Ledger.ofRequests_next]
      obtain ⟨answer, later, lastPerformed, lastAnswered, lastHolds, lastKeeps⟩ :=
        holds.perform ((serves.opens _ last).later keeps) request
          (serves.addresses _ last _ last)
          (fun save member => serves.addresses_saved last save
            (ledgerNext ▸ List.mem_append_left _ member))
          serves.earlier.survive_saved (ledgerNext ▸ serves.few)
      refine ⟨answers ++ [answer], later, ?_, ?_, ?_, keeps.trans lastKeeps⟩
      · rw [performAll_next, performed, lastPerformed, List.map_append]
        rfl
      · rw [List.map_append]
        exact .next answered lastAnswered
      · exact ledgerNext ▸ lastHolds

/-- Stores on one vacant place answer like a versioned map.  Every request gets
an answer, and the one that the ledger of the saves before it asks for.  What
is loaded for a definition does not change by a save of another one. -/
theorem performAll_refines_ledger
    (vacant : Vacant volume home) (serves : Serves volume home requests) :
    (∃ answers,
      (performAll Volume.files requests volume).1 = answers.map .ok ∧
        Ledger.AnswersAll (requests.map (·.2)) answers) ∧
      ∀ earlier later root metadata content,
        requests = earlier ++ (root, .save metadata content) :: later →
        ∀ reader identity, Opens volume reader home → Addresses reader identity →
          identity ≠ metadata.identity →
            let before := (performAll Volume.files earlier volume).2
            let after := (save Volume.files root metadata content before).2
            (load Volume.files reader identity after).1 =
                (load Volume.files reader identity before).1 ∧
              (payload Volume.files reader identity after).1 =
                (payload Volume.files reader identity before).1 := by
  constructor
  · obtain ⟨answers, later, performed, answered, _⟩ := performAll_holds vacant serves
    exact ⟨answers, by rw [performed], answered⟩
  · intro earlier later root metadata content split reader identity opens addresses different
    rw [← List.singleton_append, ← List.append_assoc] at split
    subst split
    have serves := serves.earlier
    have last : (root, StoreRequest.save metadata content) ∈
        earlier ++ [(root, .save metadata content)] :=
      List.mem_append_right _ List.mem_cons_self
    obtain ⟨_, before, performed, _, holds, keeps⟩ :=
      performAll_holds vacant serves.earlier
    have survive := serves.survive_saved
    rw [List.map_append, List.map_singleton, Ledger.ofRequests_next] at survive
    rw [performed]
    exact holds.load_save_of_ne ((serves.opens _ last).later keeps)
      (serves.addresses _ last _ last _ rfl) survive (opens.later keeps) addresses different

/-- A volume whose working folder has a file but no store yet. -/
def workshop : Volume where
  nodes := [(["srv"], .folder), (["srv", "notes.txt"], .file ⟨#[104, 105]⟩)]
  working := ["srv"]

theorem vacant_workshop : Vacant workshop ["srv", "store"] where
  grounded := by
    intro outer name node found
    rcases Volume.root_or_mem_of_node? found with ⟨root, _⟩ | known
    · simp at root
    · simp only [workshop, List.mem_cons, Prod.mk.injEq, List.not_mem_nil, or_false] at known
      rcases known with ⟨same, _⟩ | ⟨same, _⟩
      · have root : outer = [] := by simpa using congrArg List.dropLast same
        rw [root]
        rfl
      · have working : outer = ["srv"] := by simpa using congrArg List.dropLast same
        rw [working]
        rfl
  free := by
    intro outer inside content found
    rcases Volume.root_or_mem_of_node? found with ⟨_, impossible⟩ | known
    · exact FileNode.noConfusion impossible
    · simp only [workshop, List.mem_cons, Prod.mk.injEq, List.not_mem_nil, or_false] at known
      rcases known with ⟨_, impossible⟩ | ⟨rfl, _⟩
      · exact FileNode.noConfusion impossible
      · exact absurd inside (by decide)
  empty := by
    rintro place ⟨rest, rfl⟩ different
    cases found : workshop.node? (["srv", "store"] ++ rest) with
    | none => rfl
    | some node =>
        rcases Volume.root_or_mem_of_node? found with ⟨root, _⟩ | known
        · simp at root
        · simp [workshop] at known

/-- Two definitions are saved and read by a path from the root and one from the
working folder. -/
def workshopRequests : List (Path × StoreRequest) :=
  let tolerance := Metadata.withinTolerance
  let equality := { tolerance with identity := ⟨"equality", by decide⟩, name := "equality" }
  let absolute : Path := ⟨true, ["srv", "store"]⟩
  let relative : Path := ⟨false, [".", "store"]⟩
  [(relative, .list),
    (absolute, .save tolerance ⟨#[1]⟩),
    (relative, .load tolerance.identity),
    (relative, .save equality ⟨#[]⟩),
    (relative, .save tolerance ⟨#[2, 0]⟩),
    (absolute, .payload tolerance.identity),
    (absolute, .list)]

theorem opens_workshop :
    Opens workshop ⟨true, ["srv", "store"]⟩ ["srv", "store"] ∧
      Opens workshop ⟨false, [".", "store"]⟩ ["srv", "store"] := by
  have store : Path.Enterable "store" := by decide
  have absolute : workshop.LeadsTo ⟨true, ["srv"]⟩ ["srv"] := .there rfl rfl
  have relative : workshop.LeadsTo ⟨false, ["."]⟩ ["srv"] := .there rfl rfl
  exact ⟨⟨.enter store absolute, by decide⟩, ⟨.enter store relative, by decide⟩⟩

theorem serves_workshopRequests :
    Serves workshop ["srv", "store"] workshopRequests where
  opens := by
    obtain ⟨absolute, relative⟩ := opens_workshop
    simp only [workshopRequests, List.forall_mem_cons]
    exact ⟨relative, absolute, relative, relative, relative, absolute, absolute,
      List.forall_mem_nil _⟩
  addresses := by decide
  survive := by
    have tolerance : Survives Metadata.withinTolerance :=
      survives_of_portable Metadata.portable_withinTolerance
    have equality := @survives_of_portable
      { Metadata.withinTolerance with identity := ⟨"equality", by decide⟩, name := "equality" }
      Metadata.portable_withinTolerance
    have none : ∀ save ∈ ([] : Ledger), Survives save.1 := List.forall_mem_nil _
    simp only [workshopRequests, List.forall_mem_cons, StoreRequest.saves]
    exact ⟨none, ⟨tolerance, none⟩, none, ⟨equality, none⟩, ⟨tolerance, none⟩, none, none,
      List.forall_mem_nil _⟩
  few := by
    intro identity
    refine Nat.lt_of_le_of_lt (List.length_filter_le _ _) ?_
    decide

theorem performAll_workshopRequests :
    Vacant workshop ["srv", "store"] ∧
      Serves workshop ["srv", "store"] workshopRequests ∧
        ∃ answers,
          (performAll Volume.files workshopRequests workshop).1 = answers.map .ok ∧
            Ledger.AnswersAll (workshopRequests.map (·.2)) answers :=
  ⟨vacant_workshop, serves_workshopRequests,
    (performAll_refines_ledger vacant_workshop serves_workshopRequests).1⟩

end Assay.Directory
