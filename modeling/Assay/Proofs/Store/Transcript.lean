import Assay.Store

/-!
# Transcripts of stores

A transcribed store answers like its store and keeps a transcript of its calls,
with their answers, beside the state.  Whether and why a store was called can be
read off what an operation leaves in the transcript.
-/

namespace Assay

variable {τ : Type}

/-- A call of a store and its answer. -/
inductive StoreExchange where
  | load (identity : Identity) (answer : Except CallFailure (Option Metadata))
  | save (metadata : Metadata) (payload : Payload) (answer : Except CallFailure Version)
  | list (answer : Except CallFailure (List Metadata))

/-- The definition that a call was to save. -/
def StoreExchange.savedIdentity? : StoreExchange → Option Identity
  | .save metadata _ _ => some metadata.identity
  | _ => none

/-- A save that was answered with a version. -/
structure SavedVersion where
  metadata : Metadata
  payload : Payload
  version : Version

namespace SavedVersion

def identity (saved : SavedVersion) : Identity := saved.metadata.identity

def exchange (saved : SavedVersion) : StoreExchange :=
  .save saved.metadata saved.payload (.ok saved.version)

theorem map_savedIdentity?_exchange (saves : List SavedVersion) :
    (saves.map exchange).map StoreExchange.savedIdentity? =
      (saves.map identity).map some := by
  rw [List.map_map, List.map_map]
  rfl

end SavedVersion

namespace DefinitionStore

/-- The store with a transcript of its calls. -/
def transcribed (store : DefinitionStore τ) : DefinitionStore (τ × List StoreExchange) where
  load := fun identity state =>
    let (answer, later) := store.load identity state.1
    (answer, (later, state.2 ++ [.load identity answer]))
  save := fun metadata payload state =>
    let (answer, later) := store.save metadata payload state.1
    (answer, (later, state.2 ++ [.save metadata payload answer]))
  list := fun state =>
    let (answer, later) := store.list state.1
    (answer, (later, state.2 ++ [.list answer]))

theorem save_transcribed
    {store : DefinitionStore τ} {metadata : Metadata} {payload : Payload}
    {state later : τ} {answer : Except CallFailure Version}
    (saved : store.save metadata payload state = (answer, later))
    (transcript : List StoreExchange) :
    store.transcribed.save metadata payload (state, transcript) =
      (answer, (later, transcript ++ [.save metadata payload answer])) := by
  simp only [transcribed, saved]

/-- The store whose saves are answered from a script, and time out at its end. -/
def scripted : DefinitionStore (List (Except CallFailure Version)) where
  load := fun _ script => (.ok none, script)
  save := fun _ _ script =>
    match script with
    | [] => (.error (.refused .timeout), [])
    | answer :: rest => (answer, rest)
  list := fun script => (.ok [], script)

end DefinitionStore

end Assay
