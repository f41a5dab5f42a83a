import Assay.Http.Exchange
import Assay.Store
import Assay.Text.Base64

/-!
# Stores behind a server

A remote store keeps the definitions of a project on a server.  Every
definition has an address of its own; a save puts its metadata and its payload
there and is answered with the version, a load gets the metadata back.  Only
the answer that there is nothing at an address counts as the absence of a
definition; every other failure is an error.
-/

namespace Assay

structure Remote where
  base : String
  apiKey : String
  project : String
  /-- Seconds that a request may take. -/
  timeout : Nat
  /-- Seconds that the clock has counted when a request is made. -/
  uptime : Nat

namespace Remote

variable {σ : Type}

/-! ## Requests -/

def listingPath (remote : Remote) : String :=
  "/api/v2/project/" ++ Text.PercentEncoding.encode remote.project ++ "/tests"

def definitionPath (remote : Remote) (identity : Identity) : String :=
  remote.listingPath ++ "/" ++ Text.PercentEncoding.encode identity.text

def withoutTrailingSlashes (characters : List Char) : List Char :=
  (characters.reverse.dropWhile (· == '/')).reverse

def address (remote : Remote) (path : String) : String :=
  String.ofList (withoutTrailingSlashes remote.base.toList ++ path.toList)

/-- Whether a character can stand in a header. -/
def isHeaderCharacter (character : Char) : Bool :=
  character == '\t' || (0x20 ≤ character.toNat && character.toNat ≤ 0x7E)

/-- The last second that the clock can count. -/
def lastSecond : Nat := 9223372036854775807

/-- Whether the clock can count up to the end of the time that a request may take. -/
def isTimed (remote : Remote) : Bool := remote.uptime + remote.timeout ≤ lastSecond

/-- The request for an address.  What is wrong with it shows before anything is
sent. -/
def prepare (remote : Remote) (method : Method) (path : String) (body : Option String) :
    Except StoreError Request :=
  if !remote.apiKey.toList.all isHeaderCharacter then
    .error (.http ("Bad Header: invalid header 'X-API-Key: " ++ remote.apiKey ++ "'"))
  else if !remote.isTimed then .error .timeout
  else
    match Url.parse (remote.address path) with
    | .error error => .error (.http ("Bad URL: failed to parse URL: " ++ error.message))
    | .ok url =>
        if url.scheme ≠ "http" ∧ url.scheme ≠ "https" then
          .error (.http (url.text ++ ": Unknown Scheme: unknown scheme '" ++ url.scheme ++ "'"))
        else .ok ⟨method, url, remote.apiKey, body⟩

/-! ## Answers -/

def transportFailure : TransportError → StoreError
  | .unreachable => .http "Connection failed"
  | .interrupted => .timeout
  | .failed text => .http text

/-- The body of an answer, unless its status stands for a failure. -/
def bodyOf (response : Response) : Except StoreError String :=
  if response.status < 400 then .ok response.body
  else if response.status = 401 ∨ response.status = 403 then .error .unauthorized
  else if response.status = 404 then .error (.notFound response.body)
  else .error (.api response.status response.body)

/-- Send a request and wait for the body of its answer. -/
def call (remote : Remote) (send : Transport σ) (method : Method) (path : String)
    (body : Option String) (state : σ) : Except StoreError String × σ :=
  match remote.prepare method path body with
  | .error error => (.error error, state)
  | .ok request =>
      match send request state with
      | (.error error, state) => (.error (transportFailure error), state)
      | (.ok response, state) => (bodyOf response, state)

/-- Take a value out of a body. -/
def readBody {α : Type} (decode : Json.Decoder α) (body : String) : Except StoreError α :=
  match decode.readText body with
  | .ok value => .ok value
  | .error error => .error (.json error)

/-! ## Bodies -/

def saveBody (metadata : Metadata) (payload : Payload) : Json.Value :=
  .object [("meta", metadata.toJson), ("payload", .string (Text.Base64.encode payload))]

structure SavedDraft where
  version : Option Version

/-- The answer to a save. -/
def savedShape : Json.Shape SavedDraft Version where
  title := "SaveResponse"
  blank := ⟨none⟩
  fields := [
    .keep "version" true .natural32 (·.version) fun version _ =>
      ⟨some version⟩]
  finish := fun draft => Json.needed "version" draft.version

structure ListingDraft where
  definitions : Option (List Metadata)

/-- The answer to a request for everything in a project. -/
def listingShape : Json.Shape ListingDraft (List Metadata) where
  title := "ListResponse"
  blank := ⟨none⟩
  fields := [
    .keep "tests" true (.list Metadata.decode) (·.definitions) fun definitions _ =>
      ⟨some definitions⟩]
  finish := fun draft => Json.needed "tests" draft.definitions

/-! ## The store -/

def answer {α : Type} : Except StoreError α × σ → CallResult σ α
  | (.ok value, state) => (.ok value, state)
  | (.error error, state) => (.error (.refused error), state)

def load (remote : Remote) (send : Transport σ) (identity : Identity) (state : σ) :
    CallResult σ (Option Metadata) :=
  match remote.call send .get (remote.definitionPath identity) none state with
  | (.error (.notFound _), state) => (.ok none, state)
  | (.error error, state) => (.error (.refused error), state)
  | (.ok body, state) => answer ((readBody Metadata.decode body).map some, state)

def save (remote : Remote) (send : Transport σ) (metadata : Metadata) (payload : Payload)
    (state : σ) : CallResult σ Version :=
  let body := (saveBody metadata payload).compact
  match remote.call send .put (remote.definitionPath metadata.identity) (some body) state with
  | (.error error, state) => (.error (.refused error), state)
  | (.ok body, state) => answer (readBody savedShape.decode body, state)

def list (remote : Remote) (send : Transport σ) (state : σ) : CallResult σ (List Metadata) :=
  match remote.call send .get remote.listingPath none state with
  | (.error error, state) => (.error (.refused error), state)
  | (.ok body, state) => answer (readBody listingShape.decode body, state)

def store (remote : Remote) (send : Transport σ) : DefinitionStore σ where
  load := remote.load send
  save := remote.save send
  list := remote.list send

/-- How a diagnostic shows a remote store; the key stays hidden. -/
def describe (remote : Remote) : String :=
  "RemoteStore \x7b base_url: " ++ Text.quote remote.base ++ ", project: "
    ++ Text.quote remote.project ++ " \x7d"

end Remote

end Assay
