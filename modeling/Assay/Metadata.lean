import Assay.Parameter

/-!
# Metadata of definitions

Everything about a definition but its logic: where it was declared, how it is
shown, which parameters it takes, and, once a store has assigned one, its
version.
-/

namespace Assay

/-- Versions are numbers of 32 bits without sign. -/
abbrev Version := UInt32

/-- Whether a definition is backed by a function or by a class. -/
inductive DefinitionKind where
  | function
  | classBased
deriving DecidableEq

namespace DefinitionKind

def variants : List (String × DefinitionKind) :=
  [("function", .function), ("class", .classBased)]

def name : DefinitionKind → String
  | .function => "function"
  | .classBased => "class"

def toJson (kind : DefinitionKind) : Json.Value := .string kind.name

def decode : Json.Decoder DefinitionKind := .variant variants

/-- How a diagnostic shows a kind. -/
def describe : DefinitionKind → String
  | .function => "Function"
  | .classBased => "Class"

end DefinitionKind

structure Metadata where
  identity : Identity
  name : String
  displayName : String
  moduleName : String
  doc : String
  moduleDoc : String
  code : String
  tags : List String
  parameters : List Parameter
  kind : DefinitionKind
  /-- Absent until the definition has been persisted. -/
  version : Option Version

namespace Metadata

/-- The first parameter of a name. -/
def parameter? (metadata : Metadata) (name : String) : Option Parameter :=
  metadata.parameters.find? (·.name == name)

def requiredParameters (metadata : Metadata) : List Parameter :=
  metadata.parameters.filter fun parameter => !parameter.isOptional

def hasTag (metadata : Metadata) (tag : String) : Bool := metadata.tags.contains tag

def withVersion (metadata : Metadata) (version : Version) : Metadata :=
  { metadata with version := some version }

/-- Equality of two definitions, whatever their versions. -/
def sameDefinition (left right : Metadata) : Bool :=
  left.identity == right.identity && left.name == right.name
    && left.displayName == right.displayName && left.moduleName == right.moduleName
    && left.doc == right.doc && left.moduleDoc == right.moduleDoc
    && left.code == right.code && left.tags == right.tags
    && Parameter.sameAll left.parameters right.parameters && left.kind == right.kind

def same (left right : Metadata) : Bool :=
  left.sameDefinition right && left.version == right.version

/-- The order of listings: by module, then by name. -/
def listedBefore (left right : Metadata) : Bool :=
  decide (left.moduleName < right.moduleName)
    || (left.moduleName == right.moduleName && !decide (right.name < left.name))

/-- Definitions by module and name; those that agree in both keep their order. -/
def sortForListing (definitions : List Metadata) : List Metadata :=
  definitions.mergeSort listedBefore

/-! ## As JSON -/

def versionToJson : Option Version → Json.Value
  | none => .null
  | some version => .number (.ofUInt32 version)

def toJson (metadata : Metadata) : Json.Value :=
  .object [
    ("uuid", metadata.identity.toJson),
    ("name", .string metadata.name),
    ("display_name", .string metadata.displayName),
    ("module", .string metadata.moduleName),
    ("doc", .string metadata.doc),
    ("module_doc", .string metadata.moduleDoc),
    ("code", .string metadata.code),
    ("tags", .array (metadata.tags.map .string)),
    ("args", .array (metadata.parameters.map Parameter.toJson)),
    ("kind", metadata.kind.toJson),
    ("version", versionToJson metadata.version)]

structure Draft where
  identity : Option Identity
  name : Option String
  displayName : Option String
  moduleName : Option String
  doc : Option String
  moduleDoc : Option String
  code : Option String
  tags : Option (List String)
  parameters : Option (List Parameter)
  kind : Option DefinitionKind
  version : Option (Option Version)

def shape : Json.Shape Draft Metadata where
  title := "TestFunctionMeta"
  blank := ⟨none, none, none, none, none, none, none, none, none, none, none⟩
  fields := [
    .keep "uuid" true Identity.decode (·.identity) fun identity draft =>
      { draft with identity := some identity },
    .keep "name" true .string (·.name) fun name draft =>
      { draft with name := some name },
    .keep "display_name" true .string (·.displayName) fun displayName draft =>
      { draft with displayName := some displayName },
    .keep "module" true .string (·.moduleName) fun moduleName draft =>
      { draft with moduleName := some moduleName },
    .keep "doc" false .string (·.doc) fun doc draft =>
      { draft with doc := some doc },
    .keep "module_doc" false .string (·.moduleDoc) fun moduleDoc draft =>
      { draft with moduleDoc := some moduleDoc },
    .keep "code" false .string (·.code) fun code draft =>
      { draft with code := some code },
    .keep "tags" false (.list .string) (·.tags) fun tags draft =>
      { draft with tags := some tags },
    .keep "args" false (.list Parameter.decode) (·.parameters) fun parameters draft =>
      { draft with parameters := some parameters },
    .keep "kind" false DefinitionKind.decode (·.kind) fun kind draft =>
      { draft with kind := some kind },
    .keep "version" false (.optional .natural32) (·.version) fun version draft =>
      { draft with version := some version }]
  finish := fun draft => do
    let identity ← Json.needed "uuid" draft.identity
    let name ← Json.needed "name" draft.name
    let displayName ← Json.needed "display_name" draft.displayName
    let moduleName ← Json.needed "module" draft.moduleName
    pure {
      identity := identity
      name := name
      displayName := displayName
      moduleName := moduleName
      doc := draft.doc.getD ""
      moduleDoc := draft.moduleDoc.getD ""
      code := draft.code.getD ""
      tags := draft.tags.getD []
      parameters := draft.parameters.getD []
      kind := draft.kind.getD .function
      version := draft.version.getD none }

def decode : Json.Decoder Metadata := shape.decode

end Metadata

end Assay
