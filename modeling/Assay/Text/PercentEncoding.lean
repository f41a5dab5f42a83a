import Assay.Text.Hexadecimal

/-!
# Percent encoding

A text becomes part of an address when every byte of it that is not unreserved
is written as a percent sign with two hexadecimal digits.  Decoding gives the
bytes of the text back.  The parts of an address that somebody has written are
only escaped: what stands for itself there stays, percent signs too.
-/

namespace Assay.Text.PercentEncoding

/-- Letters, digits and four marks stand for themselves. -/
def isUnreserved (character : Char) : Bool :=
  character.isAlphanum || character == '-' || character == '.' || character == '_'
    || character == '~'

def encodeByte (byte : UInt8) : List Char :=
  ['%', upperHexDigit (byte.toNat / 16), upperHexDigit (byte.toNat % 16)]

def encodeCharacter (character : Char) : List Char :=
  if isUnreserved character then [character]
  else (String.utf8EncodeChar character).flatMap encodeByte

def encodeList (characters : List Char) : List Char := characters.flatMap encodeCharacter

def encode (text : String) : String := String.ofList (encodeList text.toList)

/-- Whether a character is escaped in a part of an address that has these marks to
escape. -/
def isEscaped (marks : List Char) (character : Char) : Bool :=
  character.toNat ≤ 0x20 || 0x7F ≤ character.toNat || marks.contains character

def escape (marks : List Char) (characters : List Char) : List Char :=
  characters.flatMap fun character =>
    if isEscaped marks character then
      (String.utf8EncodeChar character).flatMap encodeByte
    else [character]

/-- The bytes that somebody has written.  A percent sign without two digits stands
for itself. -/
def bytesOf : List Char → List UInt8
  | '%' :: high :: low :: rest =>
      match hexValue? high, hexValue? low with
      | some first, some second => UInt8.ofNat (first * 16 + second) :: bytesOf rest
      | _, _ => String.utf8EncodeChar '%' ++ bytesOf (high :: low :: rest)
  | character :: rest => String.utf8EncodeChar character ++ bytesOf rest
  | [] => []

/-- The bytes that an encoded text stands for. -/
def decodeList : List Char → Option (List UInt8)
  | [] => some []
  | '%' :: high :: low :: rest => do
      let high ← hexValue? high
      let low ← hexValue? low
      let bytes ← decodeList rest
      pure (UInt8.ofNat (high * 16 + low) :: bytes)
  | character :: rest => do
      if character = '%' then none
      let bytes ← decodeList rest
      pure (String.utf8EncodeChar character ++ bytes)

theorem decodeList_encodeByte_append (byte : UInt8) (rest : List Char) :
    decodeList (encodeByte byte ++ rest) = (decodeList rest).map (byte :: ·) := by
  have bound := byte.toNat_lt
  have whole : byte.toNat / 16 * 16 + byte.toNat % 16 = byte.toNat := by omega
  simp only [encodeByte, List.cons_append, List.nil_append, decodeList,
    hexValue?_upperHexDigit (show byte.toNat / 16 < 16 by omega),
    hexValue?_upperHexDigit (show byte.toNat % 16 < 16 by omega), Option.bind_eq_bind,
    Option.bind_some, whole, UInt8.ofNat_toNat]
  cases decodeList rest <;> rfl

theorem decodeList_encodeBytes_append (bytes : List UInt8) (rest : List Char) :
    decodeList (bytes.flatMap encodeByte ++ rest) = (decodeList rest).map (bytes ++ ·) := by
  induction bytes with
  | nil => simp
  | cons byte bytes induction =>
      rw [List.flatMap_cons, List.append_assoc, decodeList_encodeByte_append, induction]
      cases decodeList rest <;> rfl

theorem decodeList_unreserved_cons {character : Char} (plain : isUnreserved character = true)
    (rest : List Char) :
    decodeList (character :: rest)
      = (decodeList rest).map (String.utf8EncodeChar character ++ ·) := by
  have noPercent : character ≠ '%' := by
    rintro rfl
    exact absurd plain (by decide)
  rw [decodeList.eq_3 _ _ (fun _ _ _ percent _ => noPercent percent)]
  simp only [noPercent, if_false]
  cases decodeList rest <;> rfl

theorem decodeList_encodeList (characters : List Char) :
    decodeList (encodeList characters) = some (characters.flatMap String.utf8EncodeChar) := by
  induction characters with
  | nil => rfl
  | cons character rest induction =>
      rw [encodeList, List.flatMap_cons, ← encodeList, encodeCharacter]
      split
      · rename_i plain
        rw [List.singleton_append, decodeList_unreserved_cons plain, induction]
        rfl
      · rw [decodeList_encodeBytes_append, induction]
        rfl

end Assay.Text.PercentEncoding
