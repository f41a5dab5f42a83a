import Assay.Json.Printer
import Assay.Json.Reader

/-!
# Taking values out of JSON texts

A decoder takes a value of the domain out of the tree of a text.  It goes
through the tree in the order of the text, and the first problem it meets is
its answer: a fault of the text, or a well-formed part of the wrong shape.

A structure is read from an object or from the array of its fields.  Unknown
members are skipped, a member that comes twice is refused.
-/

namespace Assay.Json

/-- What a decoder found in place of what it expected. -/
inductive Found where
  | null
  | bool (value : Bool)
  | number (value : Number)
  | string (value : String)
  | sequence
  | map
deriving DecidableEq

def Found.describe : Found → String
  | .null => "null"
  | .bool value => "boolean `" ++ (if value then "true" else "false") ++ "`"
  | .number (.integer value fits) =>
      "integer `" ++ String.ofList (Number.print (.integer value fits)) ++ "`"
  | .number (.binary value finite) =>
      "floating point `" ++ String.ofList (Number.print (.binary value finite)) ++ "`"
  | .string value => "string " ++ Text.quote value
  | .sequence => "sequence"
  | .map => "map"

/-- A well-formed text whose content has the wrong shape. -/
inductive Mismatch where
  | missingField (name : String)
  | duplicateField (name : String)
  | unknownVariant (name : String) (known : List String)
  | wrongType (found : Found) (expected : String)
  | wrongValue (found : Found) (expected : String)
  | tooShort (length : Nat) (title : String) (fieldCount : Nat)
  | tooLong (length : Nat)
  /-- The content has the right shape but breaks a rule of its own. -/
  | refused (reason : String)
deriving DecidableEq

namespace Mismatch

def quoteName (name : String) : String := "`" ++ name ++ "`"

def message : Mismatch → String
  | .missingField name => "missing field " ++ quoteName name
  | .duplicateField name => "duplicate field " ++ quoteName name
  | .unknownVariant name known =>
      "unknown variant " ++ quoteName name ++ ", expected "
        ++ " or ".intercalate (known.map quoteName)
  | .wrongType found expected =>
      "invalid type: " ++ found.describe ++ ", expected " ++ expected
  | .wrongValue found expected =>
      "invalid value: " ++ found.describe ++ ", expected " ++ expected
  | .tooShort length title fieldCount =>
      "invalid length " ++ toString length ++ ", expected struct " ++ title ++ " with "
        ++ toString fieldCount ++ (if fieldCount = 1 then " element" else " elements")
  | .tooLong length =>
      "invalid length " ++ toString length ++ ", expected fewer elements in array"
  | .refused reason => reason

end Mismatch

inductive ReadError where
  | fault (fault : Fault)
  | mismatch (mismatch : Mismatch)
deriving DecidableEq

/-- Where the tree comes from.  A text may nest its arrays and objects only to
a certain depth; a value in memory is limited in no way. -/
inductive Medium where
  | text (levels : Nat)
  | memory
deriving DecidableEq

/-- The medium within the next bracket. -/
def Medium.enter : Medium → Except ReadError Medium
  | .text 0 => .error (.fault .malformed)
  | .text (levels + 1) => .ok (.text levels)
  | .memory => .ok .memory

/-- The nesting that a text may have. -/
def textLevels : Nat := 127

abbrev Decoder (α : Type) := Medium → Source → Except ReadError α

/-- The complaint that a part of the text is not what was expected.  A part
that cannot be read is a fault instead. -/
def unexpected (source : Source) (expected : String) : ReadError :=
  let wrong (found : Found) : ReadError := .mismatch (.wrongType found expected)
  match source with
  | .null => wrong .null
  | .bool value => wrong (.bool value)
  | .number value => wrong (.number value)
  | .string value => wrong (.string value)
  | .flawed flaw => .fault flaw.whenRead
  | .array _ _ => wrong .sequence
  | .object _ _ => wrong .map

/-- Nothing may follow but the bracket. -/
def checkEnding : Option Fault → Except ReadError Unit
  | none => .ok ()
  | some fault => .error (.fault fault)

def checkSkipped (source : Source) : Except ReadError Unit :=
  checkEnding source.skipFault

def readName (key : Key) : Except ReadError String :=
  match key with
  | .ok name => .ok name
  | .error fault => .error (.fault fault)

namespace Decoder

/-! ## Scalars -/

def string : Decoder String
  | _, .string value => .ok value
  | _, source => .error (unexpected source "a string")

def bool : Decoder Bool
  | _, .bool value => .ok value
  | _, source => .error (unexpected source "a boolean")

def binary64 : Decoder Binary64
  | _, .number value => .ok value.toBinary64
  | _, source => .error (unexpected source "f64")

/-- An integer of 32 bits without sign. -/
def natural32 : Decoder UInt32
  | _, .number (.integer value fits) =>
      if 0 ≤ value ∧ value < UInt32.size then .ok (UInt32.ofNat value.toNat)
      else .error (.mismatch (.wrongValue (.number (.integer value fits)) "u32"))
  | _, source => .error (unexpected source "u32")

def unit : Decoder Unit
  | _, .null => .ok ()
  | _, source => .error (unexpected source "unit")

/-- A text that has to pass a rule of its own. -/
def checked {α ε : Type} (check : String → Except ε α) (reason : ε → String) : Decoder α :=
  fun medium source => do
    let text ← string medium source
    match check text with
    | .ok value => pure value
    | .error error => throw (.mismatch (.refused (reason error)))

def optional {α : Type} (decode : Decoder α) : Decoder (Option α)
  | _, .null => .ok none
  | medium, source => (decode medium source).map some

/-! ## Lists and free-form values -/

def items {α : Type} (decode : Decoder α) (medium : Medium) :
    List Source → Except ReadError (List α)
  | [] => .ok []
  | item :: rest => do
      let value ← decode medium item
      let values ← items decode medium rest
      pure (value :: values)

def list {α : Type} (decode : Decoder α) : Decoder (List α)
  | medium, .array sources ending => do
      let inner ← medium.enter
      let values ← items decode inner sources
      checkEnding ending
      pure values
  | _, source => .error (unexpected source "a sequence")

mutual

/-- Any value.  Of members with the same name the last one counts. -/
def value : Source → Medium → Except ReadError Value
  | .null, _ => .ok .null
  | .bool content, _ => .ok (.bool content)
  | .number content, _ => .ok (.number content)
  | .string content, _ => .ok (.string content)
  | .flawed flaw, _ => .error (.fault flaw.whenRead)
  | .array sources ending, medium => do
      let inner ← medium.enter
      let values ← valueItems sources inner
      checkEnding ending
      pure (.array values)
  | .object members ending, medium => do
      let inner ← medium.enter
      let values ← valueMembers members inner
      checkEnding ending
      pure (.ofMembers values)

def valueItems : List Source → Medium → Except ReadError (List Value)
  | [], _ => .ok []
  | item :: rest, medium => do
      let content ← value item medium
      let contents ← valueItems rest medium
      pure (content :: contents)

def valueMembers : List (Key × Source) → Medium → Except ReadError (List (String × Value))
  | [], _ => .ok []
  | (key, member) :: rest, medium => do
      let name ← readName key
      let content ← value member medium
      let contents ← valueMembers rest medium
      pure ((name, content) :: contents)

end

def anyValue : Decoder Value := fun medium source => value source medium

/-! ## Names out of a fixed set -/

/-- Look a name up among the known ones. -/
def lookupVariant {α : Type} (variants : List (String × α)) (name : String) :
    Except ReadError α :=
  match variants.find? (·.1 == name) with
  | some variant => .ok variant.2
  | none => .error (.mismatch (.unknownVariant name (variants.map (·.1))))

/-- One of the known names, alone or as the only member of an object whose value
is null. -/
def variant {α : Type} (variants : List (String × α)) : Decoder α
  | _, .string name => lookupVariant variants name
  | medium, .object members ending => do
      let inner ← medium.enter
      match medium, members with
      | .memory, [(key, content)] =>
          let found ← lookupVariant variants (← readName key)
          unit inner content
          pure found
      | .memory, _ => throw (.mismatch (.wrongValue .map "map with a single key"))
      | .text _, [] => throw (.fault (ending.getD .malformed))
      | .text _, (key, content) :: rest =>
          let found ← lookupVariant variants (← readName key)
          unit inner content
          if !rest.isEmpty then throw (.fault .malformed)
          checkEnding ending
          pure found
  | .text _, .flawed flaw => .error (.fault flaw.whenNamed)
  | .text _, _ => .error (.fault .malformed)
  | .memory, source => .error (unexpected source "string or map")

end Decoder

/-! ## Structures -/

/-- A field fills its place in a draft of the structure. -/
structure Field (Draft : Type) where
  name : String
  /-- Whether the structure can do without it. -/
  required : Bool
  isFilled : Draft → Bool
  fill : Medium → Source → Draft → Except ReadError Draft

/-- A field whose content is kept at one place of the draft. -/
def Field.keep {Draft α : Type} (name : String) (required : Bool) (decode : Decoder α)
    (get : Draft → Option α) (put : α → Draft → Draft) : Field Draft where
  name := name
  required := required
  isFilled := fun draft => (get draft).isSome
  fill := fun medium source draft =>
    (decode medium source).map fun content => put content draft

/-- How a structure is read: its name in messages, the draft to start from, the
fields in the order in which they are written, and the finished structure. -/
structure Shape (Draft α : Type) where
  title : String
  blank : Draft
  fields : List (Field Draft)
  finish : Draft → Except ReadError α

/-- The content of a field that the structure cannot do without. -/
def needed {α : Type} (name : String) : Option α → Except ReadError α
  | some content => .ok content
  | none => .error (.mismatch (.missingField name))

namespace Shape

variable {Draft α : Type}

def readMembers (shape : Shape Draft α) (medium : Medium) :
    List (Key × Source) → Draft → Except ReadError Draft
  | [], draft => .ok draft
  | (key, source) :: rest, draft => do
      let name ← readName key
      match shape.fields.find? (·.name == name) with
      | some field =>
          if field.isFilled draft then throw (.mismatch (.duplicateField name))
          let filled ← field.fill medium source draft
          readMembers shape medium rest filled
      | none =>
          checkSkipped source
          readMembers shape medium rest draft

/-- Fill the fields in order, and hand back the items that are left. -/
def readItems (shape : Shape Draft α) (medium : Medium) (ending : Option Fault) :
    List (Field Draft) → List Source → Draft → Except ReadError (Draft × List Source)
  | [], sources, draft => .ok (draft, sources)
  | field :: fields, [], draft => do
      checkEnding ending
      if field.required then
        throw (.mismatch (.tooShort (shape.fields.length - fields.length - 1) shape.title
          shape.fields.length))
      readItems shape medium ending fields [] draft
  | field :: fields, source :: sources, draft => do
      let filled ← field.fill medium source draft
      readItems shape medium ending fields sources filled

def decode (shape : Shape Draft α) : Decoder α
  | medium, .object members ending => do
      let inner ← medium.enter
      let draft ← shape.readMembers inner members shape.blank
      checkEnding ending
      shape.finish draft
  | medium, .array sources ending => do
      let inner ← medium.enter
      let (draft, left) ← shape.readItems inner ending shape.fields sources shape.blank
      let finished ← shape.finish draft
      if !left.isEmpty then
        match medium with
        | .text _ => throw (.fault .malformed)
        | .memory => throw (.mismatch (.tooLong sources.length))
      checkEnding ending
      pure finished
  | _, source => .error (unexpected source ("struct " ++ shape.title))

end Shape

/-! ## Whole texts -/

/-- Read a whole text, after which only blanks may come. -/
def Decoder.readText {α : Type} (decode : Decoder α) (text : String) : Except ReadError α := do
  let (source, rest) := Source.read text.toList
  let value ← decode (.text textLevels) source
  match rest with
  | .ok rest =>
      if (skipSpace rest).isEmpty then pure value else throw (.fault .malformed)
  | .error fault => throw (.fault fault)

/-- Read a value that is in memory already. -/
def Decoder.readValue {α : Type} (decode : Decoder α) (content : Value) : Except ReadError α :=
  decode .memory (.ofValue content)

end Assay.Json
