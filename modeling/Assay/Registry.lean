import Assay.Declaration
import Assay.Store

/-!
# The registry of definitions

The registry maps identities to metadata.  The first registration of an
identity wins; the only thing that ever happens to an entry afterwards is that
it receives its version.
-/

namespace Assay

/-- The entries in the order in which their identities became known. -/
structure Registry where
  entries : List (Identity × Metadata)

namespace Registry

def empty : Registry := ⟨[]⟩

def find? (registry : Registry) (identity : Identity) : Option Metadata :=
  (registry.entries.find? (·.1 == identity)).map (·.2)

def contains (registry : Registry) (identity : Identity) : Bool :=
  (registry.find? identity).isSome

def size (registry : Registry) : Nat := registry.entries.length

/-- Replace the entry of an identity, or add one. -/
def putEntry (identity : Identity) (metadata : Metadata) :
    List (Identity × Metadata) → List (Identity × Metadata)
  | [] => [(identity, metadata)]
  | entry :: rest =>
      if entry.1 = identity then (identity, metadata) :: rest
      else entry :: putEntry identity metadata rest

def put (registry : Registry) (identity : Identity) (metadata : Metadata) : Registry :=
  ⟨putEntry identity metadata registry.entries⟩

/-- All metadata, by module and name. -/
def all (registry : Registry) : List Metadata :=
  Metadata.sortForListing (registry.entries.map (·.2))

def identities (registry : Registry) : List Identity := registry.all.map (·.identity)

/-! ## Registration -/

/-- Keep the entry of an identity that is known, add one for an identity that is
not. -/
def insertFirst (candidate : Metadata) (registry : Registry) : Metadata × Registry :=
  match registry.find? candidate.identity with
  | some existing => (existing, registry)
  | none => (candidate, registry.put candidate.identity candidate)

def register (declaration : Declaration) (registry : Registry) :
    Except DefinitionError Metadata × Registry :=
  match declaration.toMetadata with
  | .error error => (.error error, registry)
  | .ok candidate =>
      let (kept, registry) := registry.insertFirst candidate
      (.ok kept, registry)

/-- Take over metadata from a store.  A known entry stays, unless it has no
version yet and is the same definition as the stored one, which has one. -/
def adopt (metadata : Metadata) (registry : Registry) : Metadata × Registry :=
  match registry.find? metadata.identity with
  | none => (metadata, registry.put metadata.identity metadata)
  | some existing =>
      if existing.version.isNone && metadata.version.isSome
          && existing.sameDefinition metadata then
        (metadata, registry.put metadata.identity metadata)
      else (existing, registry)

/-- Give an entry the version that a store assigned to it. -/
def recordVersion (identity : Identity) (version : Version) (registry : Registry) :
    Except StoreError Metadata × Registry :=
  match registry.find? identity with
  | none => (.error (.notFound identity.text), registry)
  | some existing =>
      match existing.version with
      | some registered =>
          if registered = version then (.ok existing, registry)
          else (.error (.versionConflict identity registered version), registry)
      | none =>
          let versioned := existing.withVersion version
          (.ok versioned, registry.put identity versioned)

/-! ## Stores -/

variable {σ : Type}

/-- The metadata of an identity.  The store is asked unless the registry knows a
version. -/
def load (store : DefinitionStore σ) (identity : Identity) (registry : Registry) (state : σ) :
    Except CallFailure (Option Metadata) × Registry × σ :=
  let known := registry.find? identity
  if (known.bind (·.version)).isSome then (.ok known, registry, state)
  else
    match store.load identity state with
    | (.error failure, state) => (.error failure, registry, state)
    | (.ok none, state) => (.ok known, registry, state)
    | (.ok (some stored), state) =>
        let (kept, registry) := registry.adopt stored
        (.ok (some kept), registry, state)

/-- The version of a registered definition, which is saved if it has none. -/
def save (store : DefinitionStore σ) (identity : Identity) (payload : Payload)
    (registry : Registry) (state : σ) : Except CallFailure Version × Registry × σ :=
  match registry.find? identity with
  | none => (.error (.refused (.notFound identity.text)), registry, state)
  | some metadata =>
      match metadata.version with
      | some version => (.ok version, registry, state)
      | none =>
          match store.save metadata payload state with
          | (.error failure, state) => (.error failure, registry, state)
          | (.ok version, state) =>
              match registry.recordVersion identity version with
              | (.error error, registry) => (.error (.refused error), registry, state)
              | (.ok _, registry) => (.ok version, registry, state)

/-- How a diagnostic shows a registry. -/
def describe (registry : Registry) : String :=
  "Registry \x7b entries: " ++ toString registry.size ++ " \x7d"

end Registry

end Assay
