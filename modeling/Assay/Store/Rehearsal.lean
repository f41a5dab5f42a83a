import Assay.Store

/-!
# Rehearsals

A rehearsal is a store that notes every call before it is made, and that can be
told to let a kind of call fail.
-/

namespace Assay

inductive StoreCall where
  | load (identity : Identity)
  | save (metadata : Metadata) (payload : Payload)
  | list

/-- What a call is for. -/
inductive CallKind where
  | load
  | save
  | list
deriving DecidableEq

namespace CallKind

def name : CallKind → String
  | .load => "load"
  | .save => "save"
  | .list => "list"

def ofName? (name : String) : Option CallKind :=
  [CallKind.load, .save, .list].find? (·.name == name)

end CallKind

def StoreCall.kind : StoreCall → CallKind
  | .load _ => .load
  | .save _ _ => .save
  | .list => .list

structure Rehearsal (σ : Type) where
  inner : σ
  /-- The calls so far, in order. -/
  calls : List StoreCall
  /-- The kinds of calls that fail. -/
  failures : List (CallKind × CallFailure)

namespace Rehearsal

variable {σ : Type}

def start (inner : σ) : Rehearsal σ := ⟨inner, [], []⟩

def failureOf? (rehearsal : Rehearsal σ) (kind : CallKind) : Option CallFailure :=
  (rehearsal.failures.find? (·.1 == kind)).map (·.2)

/-- Let a kind of call fail, or let it pass again. -/
def setFailure (rehearsal : Rehearsal σ) (kind : CallKind) (failure : Option CallFailure) :
    Rehearsal σ :=
  let others := rehearsal.failures.filter (·.1 != kind)
  { rehearsal with failures := (failure.map (kind, ·)).toList ++ others }

def forgetCalls (rehearsal : Rehearsal σ) : Rehearsal σ := { rehearsal with calls := [] }

/-- Note a call, and make it unless it is to fail. -/
def pass {α : Type} (call : StoreCall) (make : σ → CallResult σ α) (rehearsal : Rehearsal σ) :
    CallResult (Rehearsal σ) α :=
  let noted := { rehearsal with calls := rehearsal.calls ++ [call] }
  match rehearsal.failureOf? call.kind with
  | some failure => (.error failure, noted)
  | none =>
      let (result, inner) := make rehearsal.inner
      (result, { noted with inner := inner })

def store (inner : DefinitionStore σ) : DefinitionStore (Rehearsal σ) where
  load := fun identity => pass (.load identity) (inner.load identity)
  save := fun metadata payload => pass (.save metadata payload) (inner.save metadata payload)
  list := pass .list inner.list

end Rehearsal

end Assay
