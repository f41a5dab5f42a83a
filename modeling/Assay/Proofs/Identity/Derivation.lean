import Assay.Proofs.Declaration
import Assay.Proofs.Metadata.RoundTrip
import Assay.Proofs.Text.ByteOrder

/-!
# Derived identities

The identity of a declaration is the first half of a digest.  What the digest is taken of
keeps the module and the name apart, so two declarations can share an identity only if the
digest brings different inputs together.  The text of the identity shows all of its bytes:
they can be read out of it again, and it can be read back as an identity.
-/

namespace Assay

namespace Text

/-! ## Hexadecimal digits -/

/-- A digit as it is written in lower case. -/
def IsLowerHex (character : Char) : Prop :=
  '0' ≤ character ∧ character ≤ '9' ∨ 'a' ≤ character ∧ character ≤ 'f'

theorem isLowerHex_hexDigit {digit : Nat} (small : digit < 16) : IsLowerHex (hexDigit digit) := by
  have every : ∀ digit : Fin 16,
      '0' ≤ hexDigit digit ∧ hexDigit digit ≤ '9' ∨
        'a' ≤ hexDigit digit ∧ hexDigit digit ≤ 'f' := by decide
  exact every ⟨digit, small⟩

/-- The bytes that digits stand for, two digits to a byte and the high one first. -/
def decodeHex : List Char → Option (List UInt8)
  | [] => some []
  | high :: low :: rest => do
      let high ← hexValue? high
      let low ← hexValue? low
      let bytes ← decodeHex rest
      pure (UInt8.ofNat (high * 16 + low) :: bytes)
  | [_] => none

end Text

namespace Identity

variable {bytes : List UInt8} {digits : List Char}

@[simp] theorem length_hexDigits (bytes : List UInt8) :
    (hexDigits bytes).length = 2 * bytes.length := by
  induction bytes with
  | nil => rfl
  | cons byte bytes induction =>
      rw [hexDigits, List.flatMap_cons, ← hexDigits, List.length_append, induction,
        List.length_cons]
      exact (Nat.add_comm 2 _).trans (Nat.mul_succ 2 _).symm

theorem isLowerHex_of_mem_hexDigits
    {character : Char} (member : character ∈ hexDigits bytes) : Text.IsLowerHex character := by
  obtain ⟨byte, -, written⟩ := List.mem_flatMap.mp member
  rw [Text.hexByte] at written
  have small : ∀ number : Nat, number % 16 < 16 := fun _ => Nat.mod_lt _ (by decide)
  rcases List.mem_cons.mp written with rfl | low
  · exact Text.isLowerHex_hexDigit (small _)
  · rw [List.mem_singleton.mp low]
    exact Text.isLowerHex_hexDigit (small _)

@[simp] theorem decodeHex_hexDigits (bytes : List UInt8) :
    Text.decodeHex (hexDigits bytes) = some bytes := by
  induction bytes with
  | nil => rfl
  | cons byte bytes induction =>
      have bound := byte.toNat_lt
      have high : byte.toNat / 16 % 16 = byte.toNat / 16 := Nat.mod_eq_of_lt (by omega)
      have whole : byte.toNat / 16 * 16 + byte.toNat % 16 = byte.toNat := by omega
      rw [hexDigits, List.flatMap_cons, ← hexDigits, Text.hexByte, high]
      simp only [List.cons_append, List.nil_append, Text.decodeHex, induction,
        Text.hexValue?_hexDigit (show byte.toNat / 16 < 16 by omega),
        Text.hexValue?_hexDigit (show byte.toNat % 16 < 16 by omega), Option.bind_eq_bind,
        Option.bind_some, whole, UInt8.ofNat_toNat]
      rfl

/-! ## Groups of digits -/

/-- Where each group of digits begins and where it ends. -/
def groupBounds : List (Nat × Nat) := [(0, 8), (8, 12), (12, 16), (16, 20), (20, 32)]

/-- The part of a list between two places.  There is none if one of them is out of range. -/
def slice? {α : Type} (items : List α) (bounds : Nat × Nat) : Option (List α) :=
  if bounds.1 ≤ bounds.2 ∧ bounds.2 ≤ items.length then
    some ((items.take bounds.2).drop bounds.1)
  else none

/-- What the digits are cut into. -/
def groupsOf (digits : List Char) : List (List Char) :=
  groupBounds.map fun bounds => (digits.take bounds.2).drop bounds.1

theorem mapM_slice?_groupBounds (enough : digits.length = 32) :
    groupBounds.mapM (slice? digits) = some (groupsOf digits) := by
  have within : ∀ bounds ∈ groupBounds, bounds.1 ≤ bounds.2 ∧ bounds.2 ≤ digits.length := by
    rw [enough]
    decide
  have each : ∀ bounds ∈ groupBounds,
      slice? digits bounds = some ((digits.take bounds.2).drop bounds.1) :=
    fun bounds member => if_pos (within bounds member)
  simp only [groupBounds, List.forall_mem_cons] at each
  obtain ⟨first, second, third, fourth, fifth, -⟩ := each
  simp only [groupsOf, groupBounds, List.mapM_cons, List.mapM_nil, first, second, third, fourth,
    fifth]
  rfl

theorem flatten_groupsOf (enough : digits.length = 32) : (groupsOf digits).flatten = digits := by
  have joined : ∀ first last : Nat, first ≤ last →
      digits.take first ++ (digits.take last).drop first = digits.take last := by
    intro first last ordered
    conv_rhs => rw [← List.take_append_drop first (digits.take last)]
    rw [List.take_take, Nat.min_eq_left ordered]
  calc
    (groupsOf digits).flatten
        = digits.take 8 ++ (digits.take 12).drop 8 ++ (digits.take 16).drop 12 ++
            (digits.take 20).drop 16 ++ (digits.take 32).drop 20 := by
          simp [groupsOf, groupBounds]
    _ = digits.take 32 := by
          rw [joined 8 12 (by decide), joined 12 16 (by decide), joined 16 20 (by decide),
            joined 20 32 (by decide)]
    _ = digits := List.take_of_length_le (Nat.le_of_eq enough)

/-- The dashes of a layout stand between its groups. -/
theorem pieces_layOut (noDash : '-' ∉ digits) :
    Text.pieces '-' (layOut digits) = groupsOf digits := by
  have whole : ∀ count skipped : Nat, '-' ∉ (digits.drop skipped).take count :=
    fun _ _ dash => noDash (List.mem_of_mem_drop (List.mem_of_mem_take dash))
  have laidOut : layOut digits = digits.take 8 ++
      [(digits.drop 8).take 4, (digits.drop 12).take 4, (digits.drop 16).take 4,
        (digits.drop 20).take 12].flatMap ('-' :: ·) := by
    simp [layOut]
  have first : '-' ∉ digits.take 8 := whole 8 0
  rw [laidOut, Text.pieces_joined first]
  · simp [groupsOf, groupBounds, List.drop_take]
  · simp only [List.forall_mem_cons]
    exact ⟨whole 4 8, whole 4 12, whole 4 16, whole 12 20, List.forall_mem_nil _⟩

/-- A text that shows sixteen bytes: in five groups between dashes it has their digits, all in
lower case. -/
structure Shows (text : String) (bytes : List UInt8) : Prop where
  length : text.length = 36
  sizes : (Text.pieces '-' text.toList).map List.length = [8, 4, 4, 4, 12]
  lowerCase : ∀ group ∈ Text.pieces '-' text.toList, ∀ digit ∈ group, Text.IsLowerHex digit
  decoded : Text.decodeHex (Text.pieces '-' text.toList).flatten = some bytes

theorem dash_not_mem_hexDigits (bytes : List UInt8) : '-' ∉ hexDigits bytes := by
  intro dash
  have digit := isLowerHex_of_mem_hexDigits dash
  revert digit
  unfold Text.IsLowerHex
  decide

theorem shows_layOut (sixteen : bytes.length = 16) :
    Shows (String.ofList (layOut (hexDigits bytes))) bytes := by
  have enough : (hexDigits bytes).length = 32 := by rw [length_hexDigits, sixteen]
  have groups : Text.pieces '-' (String.ofList (layOut (hexDigits bytes))).toList =
      groupsOf (hexDigits bytes) := by
    rw [String.toList_ofList, pieces_layOut (dash_not_mem_hexDigits bytes)]
  constructor
  · rw [String.length_ofList]
    simp [layOut, enough]
  · rw [groups]
    simp [groupsOf, groupBounds, enough]
  · rw [groups]
    intro group member digit inside
    obtain ⟨bounds, -, rfl⟩ := List.mem_map.mp member
    exact isLowerHex_of_mem_hexDigits (List.mem_of_mem_take (List.mem_of_mem_drop inside))
  · rw [groups, flatten_groupsOf enough, decodeHex_hexDigits]

/-- A text shows no other bytes. -/
theorem Shows.unique
    {text : String} {other : List UInt8} (own : Shows text bytes) (others : Shows text other) :
    bytes = other :=
  Option.some.inj (own.decoded.symm.trans others.decoded)

/-! ## What is hashed -/

/-- The bytes of the module and those of the name, with a NUL between them. -/
def hashedBytes (moduleName name : String) : List UInt8 :=
  Text.bytes moduleName ++ 0 :: Text.bytes name

theorem bytes_hashedText (moduleName name : String) :
    Text.bytes (hashedText moduleName name) = hashedBytes moduleName name := by
  have nul : String.utf8EncodeChar '\x00' = [0] := by decide
  simp [hashedText, hashedBytes, Text.bytes_eq_flatMap, nul]

/-- Where the modules hold no NUL, the first NUL tells them from the names. -/
theorem hashedBytes_injective
    {moduleName name otherModule otherName : String}
    (whole : '\x00' ∉ moduleName.toList) (otherWhole : '\x00' ∉ otherModule.toList)
    (same : hashedBytes moduleName name = hashedBytes otherModule otherName) :
    moduleName = otherModule ∧ name = otherName := by
  rw [← bytes_hashedText, ← bytes_hashedText] at same
  have joined : ∀ moduleName name, (hashedText moduleName name).toList =
      moduleName.toList ++ '\x00' :: name.toList := by
    simp [hashedText]
  have lists := congrArg String.toList (Text.bytes_injective same)
  rw [joined, joined] at lists
  have parts := congrArg (Text.pieces '\x00') lists
  rw [Text.pieces_append, Text.pieces_append, Text.pieces_of_not_mem whole,
    Text.pieces_of_not_mem otherWhole] at parts
  have modules : moduleName.toList = otherModule.toList := (List.cons.inj parts).1
  rw [modules, List.append_cancel_left_eq, List.cons.injEq] at lists
  exact ⟨String.toList_inj.mp modules, String.toList_inj.mp lists.2⟩

/-- The name of a module holds no NUL. -/
theorem nul_not_mem_of_wellFormed
    {declaration : Declaration} (wellFormed : declaration.WellFormed) :
    '\x00' ∉ declaration.moduleName.toList := by
  intro nul
  rcases Text.inner_or_dot_of_mem_dotted wellFormed.moduleName nul with inner | dot
  · exact absurd ((Text.isIdentifierPart_iff '\x00').mpr inner) (by decide)
  · exact absurd dot (by decide)

/-! ## Whole identities -/

/-- An identity is read back from its text in JSON. -/
theorem readText_written (identity : Identity) :
    decode.readText identity.toJson.compact = .ok identity ∧
      decode.readText identity.toJson.indented = .ok identity := by
  have legible : identity.toJson.Legible := .string _
  have read : ∀ {spacing : Json.Spacing} {text : String},
      text.toList = spacing.print 0 identity.toJson → decode.readText text = .ok identity := by
    intro spacing text printed
    rw [Json.Decoder.readText_print decode printed, Json.Source.reread_of_legible legible]
    exact decode_toJson identity _
  exact ⟨read (Json.Value.toList_compact _), read (Json.Value.toList_indented _)⟩

theorem text_deriveWith
    (digest : List UInt8 → List UInt8) (moduleName name : String) :
    (deriveWith digest moduleName name).text =
      String.ofList (layOut (hexDigits ((digest (hashedBytes moduleName name)).take 16))) := by
  rw [← bytes_hashedText]
  rfl

theorem shows_deriveWith
    {digest : List UInt8 → List UInt8} (wide : ∀ input, (digest input).length = 32)
    (moduleName name : String) :
    Shows (deriveWith digest moduleName name).text
      ((digest (hashedBytes moduleName name)).take 16) := by
  rw [text_deriveWith]
  refine shows_layOut ?_
  rw [List.length_take, wide]
  rfl

/-- Two declarations get the same identity only from a digest that brings different inputs
together.  Whatever it is, as long as it is 32 bytes wide: what is hashed for accepted
declarations of different modules or names is different, and identities are the same exactly
if the digests agree in the first sixteen bytes.  For any texts at all, the text of the
identity shows these bytes, no slice that is taken for it is out of range, and it is an
identity as it stands and in JSON. -/
theorem derive_separates_declarations
    (digest : List UInt8 → List UInt8)
    (wide : ∀ input, (digest input).length = 32) :
    (∀ (left right : Declaration) (leftMetadata rightMetadata : Metadata),
        left.toMetadata = .ok leftMetadata →
        right.toMetadata = .ok rightMetadata →
        (left.moduleName, left.name) ≠ (right.moduleName, right.name) →
          hashedBytes left.moduleName left.name ≠ hashedBytes right.moduleName right.name) ∧
      (∀ moduleName name otherModule otherName,
        deriveWith digest moduleName name = deriveWith digest otherModule otherName ↔
          (digest (hashedBytes moduleName name)).take 16 =
            (digest (hashedBytes otherModule otherName)).take 16) ∧
      ∀ moduleName name,
        let identity := deriveWith digest moduleName name
        ∃ bytes, slice? (digest (hashedBytes moduleName name)) (0, 16) = some bytes ∧
          groupBounds.mapM (slice? (hexDigits bytes)) =
            some (Text.pieces '-' identity.text.toList) ∧
          Shows identity.text bytes ∧
          ofText identity.text = .ok identity ∧
          decode.readText identity.toJson.compact = .ok identity ∧
          decode.readText identity.toJson.indented = .ok identity := by
  refine ⟨?separated, ?shared, ?shown⟩
  case separated =>
    intro left right leftMetadata rightMetadata accepted otherAccepted different same
    obtain ⟨wellFormed, -⟩ := Declaration.toMetadata_eq_ok accepted
    obtain ⟨otherWellFormed, -⟩ := Declaration.toMetadata_eq_ok otherAccepted
    obtain ⟨modules, names⟩ := hashedBytes_injective (nul_not_mem_of_wellFormed wellFormed)
      (nul_not_mem_of_wellFormed otherWellFormed) same
    exact different (Prod.ext modules names)
  case shared =>
    intro moduleName name otherModule otherName
    have own := shows_deriveWith wide moduleName name
    have others := shows_deriveWith wide otherModule otherName
    constructor
    · intro same
      rw [same] at own
      exact own.unique others
    · intro agree
      apply text_injective
      rw [text_deriveWith, text_deriveWith, agree]
  case shown =>
    intro moduleName name identity
    have inRange : 16 ≤ (digest (hashedBytes moduleName name)).length := by
      rw [wide]
      decide
    have sixteen : ((digest (hashedBytes moduleName name)).take 16).length = 16 := by
      rw [List.length_take, Nat.min_eq_left inRange]
    refine ⟨(digest (hashedBytes moduleName name)).take 16, if_pos ⟨Nat.zero_le _, inRange⟩, ?_,
      shows_deriveWith wide moduleName name, ofText_text identity, readText_written identity⟩
    rw [text_deriveWith, String.toList_ofList, pieces_layOut (dash_not_mem_hexDigits _)]
    exact mapM_slice?_groupBounds (by rw [length_hexDigits, sixteen])

/-- A declaration of nothing but a module and a name. -/
def bare (moduleName name : String) : Declaration where
  moduleName := moduleName
  name := name
  displayName := none
  doc := ""
  moduleDoc := ""
  code := ""
  tags := []
  parameters := []
  kind := .function

/-- Two modules and names that are the same text when nothing separates them. -/
theorem derive_separates_bare :
    (∀ input, (Digest.sha256 input).length = 32) ∧
      (bare "checks" "auc").toMetadata = .ok (bare "checks" "auc").metadata ∧
      (bare "check" "sauc").toMetadata = .ok (bare "check" "sauc").metadata ∧
      hashedBytes "checks" "auc" ≠ hashedBytes "check" "sauc" ∧
      ∃ bytes, slice? (Digest.sha256 (hashedBytes "checks" "auc")) (0, 16) = some bytes ∧
        Shows (derive "checks" "auc").text bytes ∧
        decode.readText (derive "checks" "auc").toJson.compact = .ok (derive "checks" "auc") := by
  have accepted : (bare "checks" "auc").toMetadata = .ok (bare "checks" "auc").metadata := rfl
  have otherAccepted : (bare "check" "sauc").toMetadata = .ok (bare "check" "sauc").metadata := rfl
  obtain ⟨separated, -, shown⟩ := derive_separates_declarations Digest.sha256 Digest.length_sha256
  obtain ⟨bytes, first, -, apparent, -, read, -⟩ := shown "checks" "auc"
  exact ⟨Digest.length_sha256, accepted, otherAccepted,
    separated _ _ _ _ accepted otherAccepted (by decide), bytes, first, apparent, read⟩

end Identity

end Assay
