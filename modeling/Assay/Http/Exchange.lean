import Assay.Http.Url

/-!
# Requests and responses

A transport sends a request to the server that its address names.  It comes
back with a response, or it says how it failed.
-/

namespace Assay

inductive Method where
  | get
  | put
deriving DecidableEq

def Method.name : Method → String
  | .get => "GET"
  | .put => "PUT"

structure Request where
  method : Method
  url : Url
  apiKey : String
  body : Option String
deriving DecidableEq

structure Response where
  status : Nat
  body : String
deriving DecidableEq

inductive TransportError where
  | unreachable
  /-- The connection was lost, or time ran out. -/
  | interrupted
  | failed (text : String)
deriving DecidableEq

abbrev Transport (σ : Type) := Request → σ → Except TransportError Response × σ

end Assay
