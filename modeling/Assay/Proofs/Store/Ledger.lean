import Assay.Store

/-!
# Ledgers of saves

Seen from outside, a store of definitions is a versioned map, and all there is
to know about it is which saves were made so far.  The version of a definition
is the number of its saves, its metadata and its payload are those of the last
one.  What a request has to answer is said by the ledger of the saves before it.
-/

namespace Assay

/-- The saves that were made, the last one at the end. -/
abbrev Ledger := List (Metadata × Payload)

namespace Ledger

variable {ledger : Ledger} {identity : Identity} {metadata : Metadata} {payload : Payload}

/-- The saves of one definition. -/
def of (ledger : Ledger) (identity : Identity) : Ledger :=
  ledger.filter fun save => save.1.identity = identity

/-- The metadata that was saved last, with the number of saves as its version. -/
def latest? (ledger : Ledger) (identity : Identity) : Option Metadata :=
  (ledger.of identity).getLast?.map fun save =>
    save.1.withVersion (.ofNat (ledger.of identity).length)

/-- The payload that was saved last. -/
def payload? (ledger : Ledger) (identity : Identity) : Option Payload :=
  (ledger.of identity).getLast?.map (·.2)

@[simp] theorem latest?_nil (identity : Identity) : latest? [] identity = none := rfl

@[simp] theorem payload?_nil (identity : Identity) : payload? [] identity = none := rfl

@[simp] theorem of_save (ledger : Ledger) (metadata : Metadata) (payload : Payload) :
    Ledger.of (ledger ++ [(metadata, payload)]) metadata.identity =
      ledger.of metadata.identity ++ [(metadata, payload)] := by
  simp [of]

@[simp] theorem of_save_of_ne (different : metadata.identity ≠ identity) :
    Ledger.of (ledger ++ [(metadata, payload)]) identity = ledger.of identity := by
  simp [of, different]

@[simp] theorem latest?_save (ledger : Ledger) (metadata : Metadata) (payload : Payload) :
    Ledger.latest? (ledger ++ [(metadata, payload)]) metadata.identity =
      some (metadata.withVersion (.ofNat ((ledger.of metadata.identity).length + 1))) := by
  simp [latest?]

@[simp] theorem latest?_save_of_ne (different : metadata.identity ≠ identity) :
    Ledger.latest? (ledger ++ [(metadata, payload)]) identity = ledger.latest? identity := by
  simp [latest?, different]

theorem latest?_save_ne_none_iff :
    Ledger.latest? (ledger ++ [(metadata, payload)]) identity ≠ none ↔
      identity = metadata.identity ∨ ledger.latest? identity ≠ none := by
  by_cases same : identity = metadata.identity
  · simp [same]
  · simp [same, Ne.symm same]

@[simp] theorem payload?_save (ledger : Ledger) (metadata : Metadata) (payload : Payload) :
    Ledger.payload? (ledger ++ [(metadata, payload)]) metadata.identity = some payload := by
  simp [payload?]

@[simp] theorem payload?_save_of_ne (different : metadata.identity ≠ identity) :
    Ledger.payload? (ledger ++ [(metadata, payload)]) identity = ledger.payload? identity := by
  simp [payload?, different]

/-- What a ledger has for a definition was saved for that definition. -/
theorem save_of_latest? (found : ledger.latest? identity = some metadata) :
    ∃ save ∈ ledger, save.1.identity = identity ∧
      metadata = save.1.withVersion (.ofNat (ledger.of identity).length) := by
  obtain ⟨save, last, rfl⟩ := Option.map_eq_some_iff.mp found
  obtain ⟨present, same⟩ := List.mem_filter.mp (List.mem_of_getLast? last)
  exact ⟨save, present, of_decide_eq_true same, rfl⟩

theorem identity_of_latest? (found : ledger.latest? identity = some metadata) :
    metadata.identity = identity := by
  obtain ⟨_, _, same, rfl⟩ := save_of_latest? found
  exact same

end Ledger

/-! ## Requests and their answers -/

inductive StoreRequest where
  | save (metadata : Metadata) (payload : Payload)
  | load (identity : Identity)
  | payload (identity : Identity)
  | list

/-- The definition that a request is about. -/
def StoreRequest.identity? : StoreRequest → Option Identity
  | .save metadata _ => some metadata.identity
  | .load identity => some identity
  | .payload identity => some identity
  | .list => none

/-- The save that a request is, if it is one. -/
def StoreRequest.saves : StoreRequest → Ledger
  | .save metadata content => [(metadata, content)]
  | _ => []

inductive StoreAnswer where
  | version (version : Version)
  | metadata (found : Option Metadata)
  | payload (found : Option Payload)
  | definitions (listing : List Metadata)

namespace Ledger

/-- The ledger of the saves among some requests. -/
def ofRequests (requests : List StoreRequest) : Ledger := requests.flatMap (·.saves)

/-- A listing has the latest metadata of every definition that was saved, once,
in order. -/
structure Lists (ledger : Ledger) (listing : List Metadata) : Prop where
  ordered : listing.Pairwise fun earlier later => earlier.listedBefore later = true
  once : (listing.map (·.identity)).Nodup
  complete : ∀ metadata, metadata ∈ listing ↔
    ledger.latest? metadata.identity = some metadata

/-- The answer that a request must get after the saves of a ledger. -/
def Answers (ledger : Ledger) : StoreRequest → StoreAnswer → Prop
  | .save metadata _, .version version =>
      version.toNat = (ledger.of metadata.identity).length + 1
  | .load identity, .metadata found => found = ledger.latest? identity
  | .payload identity, .payload found => found = ledger.payload? identity
  | .list, .definitions listing => ledger.Lists listing
  | _, _ => False

/-- Every request got the answer that the saves before it ask for. -/
inductive AnswersAll : List StoreRequest → List StoreAnswer → Prop where
  | none : AnswersAll [] []
  | next {requests : List StoreRequest} {answers : List StoreAnswer}
      {request : StoreRequest} {answer : StoreAnswer}
      (earlier : AnswersAll requests answers)
      (last : (ofRequests requests).Answers request answer) :
      AnswersAll (requests ++ [request]) (answers ++ [answer])

theorem ofRequests_next (requests : List StoreRequest) (request : StoreRequest) :
    ofRequests (requests ++ [request]) = ofRequests requests ++ request.saves := by
  simp [ofRequests]

/-- What is in the ledger of some requests was saved by one of them. -/
@[simp] theorem mem_ofRequests {save : Metadata × Payload} {requests : List StoreRequest} :
    save ∈ ofRequests requests ↔ .save save.1 save.2 ∈ requests := by
  rw [ofRequests, List.mem_flatMap]
  constructor
  · rintro ⟨request, present, saved⟩
    cases request with
    | save metadata payload =>
        rw [StoreRequest.saves, List.mem_singleton] at saved
        rw [saved]
        exact present
    | _ => exact absurd saved List.not_mem_nil
  · intro present
    exact ⟨.save save.1 save.2, present, List.mem_singleton.mpr rfl⟩

end Ledger

end Assay
