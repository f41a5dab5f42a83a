import Assay.Proofs.Store.Remote

/-!
# Requests of a store behind a server

A load, a save and a listing each send the one request that is prepared for their path, or
nothing.
-/

namespace Assay

namespace Remote

variable {σ : Type} {remote : Remote} {identity : Identity}

/-- A transport that keeps what it was given to send. -/
def recorded (send : Transport σ) : Transport (σ × List Request) := fun request (state, sent) =>
  ((send request state).1, (send request state).2, sent ++ [request])

/-- A transport that reaches no server. -/
def unanswered : Transport Unit := fun _ state => (.error .unreachable, state)

/-- A load or a save of a definition sends the request. -/
inductive Sends (remote : Remote) (identity : Identity) (request : Request) : Prop where
  | load {σ : Type} {send : Transport σ} {state : σ}
      (sent : request ∈ (remote.load (recorded send) identity (state, [])).2.2) :
      Sends remote identity request
  | save {σ : Type} {send : Transport σ} {state : σ} {metadata : Metadata} {payload : Payload}
      (own : metadata.identity = identity)
      (sent : request ∈ (remote.save (recorded send) metadata payload (state, [])).2.2) :
      Sends remote identity request

/-- A listing of the project sends the request. -/
def SendsListing (remote : Remote) (request : Request) : Prop :=
  ∃ (σ : Type) (send : Transport σ) (state : σ),
    request ∈ (remote.list (recorded send) (state, [])).2.2

theorem prepare_eq_ok
    {method : Method} {path : String} {body : Option String} {request : Request}
    (prepared : remote.prepare method path body = .ok request) :
    Url.parse (remote.address path) = .ok request.url ∧ Url.formOf request.url.scheme = .web := by
  rw [prepare] at prepared
  split at prepared
  · cases prepared
  · split at prepared
    · cases prepared
    · split at prepared
      · cases prepared
      · rename_i url parsed
        split at prepared
        · cases prepared
        · rename_i web
          cases prepared
          rw [not_and_or, not_not, not_not] at web
          exact ⟨parsed, Url.formOf_of_web web⟩

/-- A call sends the request that is prepared for its path and no other one. -/
theorem call_recorded
    (send : Transport σ) (method : Method) (path : String) (body : Option String) (state : σ) :
    (remote.call (recorded send) method path body (state, [])).2.2 =
      (remote.prepare method path body).toOption.toList := by
  rw [call]
  cases prepared : remote.prepare method path body with
  | error error => rfl
  | ok request =>
      dsimp only [recorded]
      rcases send request state with ⟨error | response, later⟩
      · rfl
      · rfl

theorem answer_snd {α : Type} (outcome : Except StoreError α) (later : σ) :
    (answer (outcome, later)).2 = later := by
  cases outcome <;> rfl

theorem load_recorded (send : Transport σ) (identity : Identity) (state : σ) :
    (remote.load (recorded send) identity (state, [])).2.2 =
      (remote.prepare .get (remote.definitionPath identity) none).toOption.toList := by
  rw [← call_recorded send, load]
  rcases remote.call (recorded send) .get (remote.definitionPath identity) none (state, []) with
    ⟨error | body, later⟩
  · cases error <;> rfl
  · exact congrArg Prod.snd (answer_snd _ later)

theorem save_recorded
    (send : Transport σ) (metadata : Metadata) (payload : Payload) (state : σ) :
    (remote.save (recorded send) metadata payload (state, [])).2.2 =
      (remote.prepare .put (remote.definitionPath metadata.identity)
        (some (saveBody metadata payload).compact)).toOption.toList := by
  rw [← call_recorded send, save]
  rcases remote.call (recorded send) .put (remote.definitionPath metadata.identity)
    (some (saveBody metadata payload).compact) (state, []) with ⟨error | body, later⟩
  · rfl
  · exact congrArg Prod.snd (answer_snd _ later)

theorem list_recorded (send : Transport σ) (state : σ) :
    (remote.list (recorded send) (state, [])).2.2 =
      (remote.prepare .get remote.listingPath none).toOption.toList := by
  rw [← call_recorded send, list]
  rcases remote.call (recorded send) .get remote.listingPath none (state, []) with
    ⟨error | body, later⟩
  · rfl
  · exact congrArg Prod.snd (answer_snd _ later)

theorem mem_toList_toOption {ε α : Type} {outcome : Except ε α} {value : α} :
    value ∈ outcome.toOption.toList ↔ outcome = .ok value := by
  cases outcome with
  | error error => simp [Except.toOption]
  | ok found => simp [Except.toOption, eq_comm]

theorem Sends.parsed {request : Request} (sends : remote.Sends identity request) :
    Url.parse (remote.address (remote.definitionPath identity)) = .ok request.url ∧
      Url.formOf request.url.scheme = .web := by
  cases sends with
  | load sent =>
      rw [load_recorded, mem_toList_toOption] at sent
      exact prepare_eq_ok sent
  | save own sent =>
      subst own
      rw [save_recorded, mem_toList_toOption] at sent
      exact prepare_eq_ok sent

theorem SendsListing.parsed {request : Request} (sends : remote.SendsListing request) :
    Url.parse (remote.address remote.listingPath) = .ok request.url ∧
      Url.formOf request.url.scheme = .web := by
  obtain ⟨_, _, _, sent⟩ := sends
  rw [list_recorded, mem_toList_toOption] at sent
  exact prepare_eq_ok sent

end Remote

end Assay
