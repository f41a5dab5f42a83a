import Assay.Metadata

/-!
# Definition stores

A store keeps the metadata of definitions with a payload and assigns their
versions.  It is a triple of calls on a state of its own; a call answers or
fails and leaves a new state in either case.  A call can also crash, which is
no answer at all.
-/

namespace Assay

inductive StoreError where
  /-- The request never got an answer. -/
  | http (text : String)
  /-- The answer had a status that stands for a failure. -/
  | api (status : Nat) (message : String)
  | json (error : Json.ReadError)
  | io (text : String)
  | timeout
  | unauthorized
  | notFound (text : String)
  | versionConflict (identity : Identity) (registered stored : Version)
  | other (text : String)
deriving DecidableEq

namespace StoreError

def readErrorText : Json.ReadError → String
  | .fault .malformed => "malformed text"
  | .fault .truncated => "the text ends too early"
  | .mismatch mismatch => mismatch.message

def message : StoreError → String
  | .http text => "HTTP request failed: " ++ text
  | .api status message => "Store error (status " ++ toString status ++ "): " ++ message
  | .json error => "JSON parse error: " ++ readErrorText error
  | .io text => "I/O error: " ++ text
  | .timeout => "Request timeout"
  | .unauthorized => "Authentication failed"
  | .notFound text => "Definition not found: " ++ text
  | .versionConflict identity registered stored =>
      "Version conflict for " ++ identity.text ++ ": registered " ++ toString registered.toNat
        ++ ", stored " ++ toString stored.toNat
  | .other text => "Store error: " ++ text

end StoreError

/-- How a call can end without an answer. -/
inductive CallFailure where
  | refused (error : StoreError)
  | crashed
deriving DecidableEq

/-- What a call answers, and the state it leaves. -/
abbrev CallResult (σ α : Type) := Except CallFailure α × σ

abbrev Payload := ByteArray

structure DefinitionStore (σ : Type) where
  load : Identity → σ → CallResult σ (Option Metadata)
  save : Metadata → Payload → σ → CallResult σ Version
  list : σ → CallResult σ (List Metadata)

namespace DefinitionStore

/-- A crash of a detached call is seen as a failure of the task that made it. -/
def settle {σ α : Type} : CallResult σ α → CallResult σ α
  | (.error .crashed, state) => (.error (.refused (.other "Task join error")), state)
  | settled => settled

/-- The store on one part of a larger state. -/
def within {σ τ : Type} (part : τ → σ) (replace : σ → τ → τ) (store : DefinitionStore σ) :
    DefinitionStore τ where
  load := fun identity state =>
    let (result, changed) := store.load identity (part state)
    (result, replace changed state)
  save := fun metadata payload state =>
    let (result, changed) := store.save metadata payload (part state)
    (result, replace changed state)
  list := fun state =>
    let (result, changed) := store.list (part state)
    (result, replace changed state)

/-- The store whose calls are made by tasks of their own. -/
def detached {σ : Type} (store : DefinitionStore σ) : DefinitionStore σ where
  load := fun identity state => settle (store.load identity state)
  save := fun metadata payload state => settle (store.save metadata payload state)
  list := fun state => settle (store.list state)

end DefinitionStore

end Assay
