import Assay.NameTable
import Assay.Proofs.Metadata.RoundTrip
import Assay.Store.Directory
import Assay.Store.Remote

/-!
# A server that keeps definitions

What a remote store talks to: a server that keeps, for the path of every address, the metadata
and the payload that were put there last.  It counts versions as a store in folders does, and
writes its answers with whatever blanks.
-/

namespace Assay

theorem Payload.toList_eq (bytes : Payload) : bytes.toList = bytes.data.toList := by
  have loop : ∀ (position : Nat) (taken : List UInt8),
      ByteArray.toList.loop bytes position taken =
        taken.reverse ++ bytes.data.toList.drop position := by
    intro position taken
    induction position, taken using ByteArray.toList.loop.induct bytes with
    | case1 position taken inside induction =>
        have next : bytes.data.toList.drop position =
            bytes.get! position :: bytes.data.toList.drop (position + 1) := by
          rw [List.drop_eq_getElem_cons (by simpa using inside)]
          simp only [ByteArray.get!, Array.getElem_toList]
          rw [getElem!_pos bytes.data position (by simpa using inside)]
        rw [ByteArray.toList.loop, if_pos inside, induction, next, List.reverse_cons,
          List.append_assoc, List.singleton_append]
    | case2 position taken outside =>
        have all : bytes.data.toList.drop position = [] :=
          List.drop_of_length_le (by simpa using outside)
        rw [ByteArray.toList.loop, if_neg outside, all, List.append_nil]
  rw [ByteArray.toList, loop 0 [], List.reverse_nil, List.nil_append, List.drop_zero]

structure Server where
  /-- Metadata and payload by the path of an address. -/
  entries : NameTable (Metadata × Payload)

namespace Server

def empty : Server := ⟨.empty⟩

def find? (server : Server) (path : String) : Option (Metadata × Payload) :=
  server.entries.find? path

def keep (server : Server) (path : String) (metadata : Metadata) (payload : Payload) : Server :=
  ⟨server.entries.insert path (metadata, payload)⟩

/-! ## Bodies of requests -/

structure SaveDraft where
  metadata : Option Metadata
  payload : Option Payload

def decodePayload (text : String) : Except Unit Payload :=
  match Text.Base64.decodeList text.toList with
  | some bytes => .ok ⟨bytes.toArray⟩
  | none => .error ()

def saveShape : Json.Shape SaveDraft (Metadata × Payload) where
  title := "SaveRequest"
  blank := ⟨none, none⟩
  fields := [
    .keep "meta" true Metadata.decode (·.metadata) fun metadata draft =>
      { draft with metadata := some metadata },
    .keep "payload" true (.checked decodePayload fun _ => "not encoded") (·.payload)
      fun payload draft => { draft with payload := some payload }]
  finish := fun draft => do
    let metadata ← Json.needed "meta" draft.metadata
    let payload ← Json.needed "payload" draft.payload
    pure (metadata, payload)

/-- What is to be saved.  The metadata stands one level within the body, and may be nested as
deep there as in a text of its own. -/
def readSave? (body : String) : Option (Metadata × Payload) :=
  match Json.Source.read body.toList with
  | (source, .ok []) => (saveShape.decode (.text (Json.textLevels + 1)) source).toOption
  | _ => none

/-! ## Answers -/

def answer (spacing : Json.Spacing) (content : Json.Value) : Response :=
  ⟨200, String.ofList (spacing.print 0 content)⟩

theorem toList_answer (spacing : Json.Spacing) (content : Json.Value) :
    (answer spacing content).body.toList = spacing.print 0 content :=
  String.toList_ofList

def savedJson (version : Version) : Json.Value := .object [("version", .number (.ofUInt32 version))]

/-- The server as a transport finds it. -/
def exchange (spacing : Json.Spacing) : Transport Server := fun request server =>
  let found := server.find? request.url.path
  match request.method with
  | .get =>
      match found with
      | none => (.ok ⟨404, "nothing there"⟩, server)
      | some (metadata, _) => (.ok (answer spacing metadata.toJson), server)
  | .put =>
      match request.body.bind readSave? with
      | none => (.ok ⟨400, "nothing to save"⟩, server)
      | some (metadata, payload) =>
          let version := Directory.nextVersion (found.map (·.1))
          (.ok (answer spacing (savedJson version)),
            server.keep request.url.path (metadata.withVersion version) payload)

@[simp] theorem find?_keep
    (server : Server) (path : String) (metadata : Metadata) (payload : Payload) :
    (server.keep path metadata payload).find? path = some (metadata, payload) := by
  simp [find?, keep]

@[simp] theorem find?_keep_of_ne
    (server : Server) {path other : String} (metadata : Metadata) (payload : Payload)
    (different : other ≠ path) :
    (server.keep path metadata payload).find? other = server.find? other := by
  simp [find?, keep, Ne.symm different]

/-! ## What is sent is what arrives -/

theorem decodePayload_encode (payload : Payload) :
    decodePayload (Text.Base64.encode payload) = .ok payload := by
  rw [decodePayload, Text.Base64.encode, String.toList_ofList,
    Text.Base64.decodeList_encodeList, Payload.toList_eq]

variable {metadata : Metadata}

/-- The body of a request to save holds the metadata and every byte of the payload. -/
theorem readSave?_saveBody
    (portable : ∀ parameter ∈ metadata.parameters, parameter.Portable) (payload : Payload) :
    readSave? (Remote.saveBody metadata payload).compact = some (metadata, payload) := by
  have legible : (Remote.saveBody metadata payload).Legible := by
    apply Json.Value.Legible.object
    simp only [List.forall_mem_cons]
    exact ⟨Metadata.legible_toJson fun parameter member => (portable parameter member).legible,
      .string _, List.forall_mem_nil _⟩
  have read : saveShape.readMembers (.text Json.textLevels)
      (Json.Source.ofMembers [("meta", metadata.toJson),
        ("payload", .string (Text.Base64.encode payload))]) saveShape.blank =
      .ok ⟨some metadata, some payload⟩ := by
    simp only [Json.Source.ofMembers, Json.Source.ofValue]
    rw [Json.Shape.readMembers_fill rfl rfl (Json.Field.keep_fill
      (Metadata.decode_toJson portable) _)]
    rw [Json.Shape.readMembers_fill rfl rfl (Json.Field.keep_fill
      (Json.Decoder.checked_string (decodePayload_encode payload) _) _)]
    rfl
  rw [readSave?, Json.Value.toList_compact, Json.Source.read_print]
  simp only [Json.Source.reread_of_legible legible]
  rw [Remote.saveBody, Json.Source.ofValue, Json.Shape.decode_object read]
  rfl

/-- The answer to a save tells its version. -/
theorem readText_savedJson (spacing : Json.Spacing) (version : Version) :
    Remote.savedShape.decode.readText (answer spacing (savedJson version)).body =
      .ok version := by
  have legible : (savedJson version).Legible := by
    apply Json.Value.Legible.object
    simp only [List.forall_mem_cons]
    exact ⟨.number (Json.Number.readsBack_integer _ _), List.forall_mem_nil _⟩
  have read : Remote.savedShape.readMembers (.text (Json.textLevels - 1))
      (Json.Source.ofMembers [("version", .number (.ofUInt32 version))])
      Remote.savedShape.blank = .ok ⟨some version⟩ := by
    simp only [Json.Source.ofMembers, Json.Source.ofValue]
    rw [Json.Shape.readMembers_fill rfl rfl (Json.Field.keep_fill
      (Json.Decoder.natural32_ofUInt32 version _) _)]
    rfl
  have levels : Json.textLevels = Json.textLevels - 1 + 1 := rfl
  rw [Json.Decoder.readText_print _ (toList_answer spacing (savedJson version)),
    Json.Source.reread_of_legible legible, savedJson, Json.Source.ofValue, levels,
    Json.Shape.decode_object read]
  rfl

/-- Metadata that is got back is what is kept. -/
theorem readText_kept
    (portable : ∀ parameter ∈ metadata.parameters, parameter.Portable)
    (spacing : Json.Spacing) :
    Metadata.decode.readText (answer spacing metadata.toJson).body = .ok metadata :=
  Metadata.readText_of_print portable (toList_answer spacing metadata.toJson)

end Server

end Assay
