import Assay.Json.Printer
import Assay.Json.Reader

/-!
# Quoted strings within a text

What a string escapes is taken back character by character, so a quoted string
is read as its content, whatever characters it holds and whatever comes next.
-/

namespace Assay.Json

variable {rest read : List Char}

theorem scanString_plain
    {character : Char} (notQuote : character ≠ '"')
    (notBackslash : character ≠ '\\') (notControl : ¬character.toNat < 0x20) :
    scanString (character :: rest) .plain read false =
      scanString rest .plain (character :: read) false := by
  simp only [scanString, notQuote, notBackslash, notControl, if_false]

theorem scanString_escape
    {mark value : Char} (notUnit : mark ≠ 'u')
    (stands : escapeValue? mark = some value) :
    scanString ('\\' :: mark :: rest) .plain read false =
      scanString rest .plain (value :: read) false := by
  simp [scanString, notUnit, stands]

/-- The code unit of a control character is the character itself. -/
theorem scanString_controlUnit
    {character : Char} (control : character.toNat < 0x20) :
    scanString (['\\', 'u', '0', '0'] ++ Text.hexByte character.toNat ++ rest)
        .plain read false =
      scanString rest .plain (character :: read) false := by
  have high : Text.hexValue? (Text.hexDigit (character.toNat / 16 % 16)) =
      some (character.toNat / 16 % 16) :=
    Text.hexValue?_hexDigit (Nat.mod_lt _ (by decide))
  have low : Text.hexValue? (Text.hexDigit (character.toNat % 16)) =
      some (character.toNat % 16) :=
    Text.hexValue?_hexDigit (Nat.mod_lt _ (by decide))
  have zero : Text.hexValue? '0' = some 0 := rfl
  have unit : 16 * (character.toNat / 16 % 16) + character.toNat % 16 =
      character.toNat := by omega
  have notLeading : isLeading character.toNat = false := by
    simp only [isLeading, Bool.and_eq_false_iff, decide_eq_false_iff_not]
    omega
  have notTrailing : isTrailing character.toNat = false := by
    simp only [isTrailing, Bool.and_eq_false_iff, decide_eq_false_iff_not]
    omega
  simp [Text.hexByte, scanString, zero, high, low, unit, notLeading,
    notTrailing, Char.ofNat_toNat]

/-- A character is escaped by a mark of its own, as a code unit or not at all. -/
theorem escapeCharacter_cases (character : Char) :
    (∃ mark, mark ≠ 'u' ∧ escapeValue? mark = some character ∧
        escapeCharacter character = ['\\', mark]) ∨
      (character.toNat < 0x20 ∧
        escapeCharacter character =
          ['\\', 'u', '0', '0'] ++ Text.hexByte character.toNat) ∨
      (character ≠ '"' ∧ character ≠ '\\' ∧ ¬character.toNat < 0x20 ∧
        escapeCharacter character = [character]) := by
  unfold escapeCharacter
  by_cases named : character ∈ ['"', '\\', '\x08', '\t', '\n', '\x0c', '\r']
  · left
    simp only [List.mem_cons, List.not_mem_nil, or_false] at named
    rcases named with rfl | rfl | rfl | rfl | rfl | rfl | rfl
    · exact ⟨'"', by decide, rfl, rfl⟩
    · exact ⟨'\\', by decide, rfl, rfl⟩
    · exact ⟨'b', by decide, rfl, rfl⟩
    · exact ⟨'t', by decide, rfl, rfl⟩
    · exact ⟨'n', by decide, rfl, rfl⟩
    · exact ⟨'f', by decide, rfl, rfl⟩
    · exact ⟨'r', by decide, rfl, rfl⟩
  · right
    simp only [List.mem_cons, List.not_mem_nil, or_false, not_or] at named
    obtain ⟨notQuote, notBackslash, notBackspace, notTab, notLine, notFeed,
      notReturn⟩ := named
    rw [if_neg notQuote, if_neg notBackslash, if_neg notBackspace, if_neg notTab,
      if_neg notLine, if_neg notFeed, if_neg notReturn]
    by_cases control : character.toNat < 0x20
    · exact Or.inl ⟨control, if_pos control⟩
    · exact Or.inr ⟨notQuote, notBackslash, control, if_neg control⟩

theorem scanString_escapeCharacter (character : Char) :
    scanString (escapeCharacter character ++ rest) .plain read false =
      scanString rest .plain (character :: read) false := by
  rcases escapeCharacter_cases character with
    ⟨mark, notUnit, stands, shape⟩ | ⟨control, shape⟩ |
      ⟨notQuote, notBackslash, notControl, shape⟩
  · rw [shape]
    exact scanString_escape notUnit stands
  · rw [shape]
    exact scanString_controlUnit control
  · rw [shape]
    exact scanString_plain notQuote notBackslash notControl

theorem scanString_escaped (characters : List Char) :
    scanString (characters.flatMap escapeCharacter ++ '"' :: rest) .plain read false =
      ⟨.ok (String.ofList (read.reverse ++ characters)), .ok rest⟩ := by
  induction characters generalizing read with
  | nil => simp [scanString]
  | cons character characters induction =>
      rw [List.flatMap_cons, List.append_assoc, scanString_escapeCharacter,
        induction, List.reverse_cons, List.append_assoc]
      rfl

/-- The content of a quoted string and the text after it. -/
theorem scanString_printString (text : String) :
    scanString (text.toList.flatMap escapeCharacter ++ '"' :: rest) .plain [] false =
      ⟨.ok text, .ok rest⟩ := by
  rw [scanString_escaped, List.reverse_nil, List.nil_append, String.ofList_toList]

theorem printString_append (text : String) :
    printString text ++ rest =
      '"' :: (text.toList.flatMap escapeCharacter ++ '"' :: rest) := by
  simp [printString]

theorem readString_escaped (text : String) :
    readString (text.toList.flatMap escapeCharacter ++ '"' :: rest) =
      (.string text, .ok rest) := by
  simp only [readString, scanString_printString]

theorem readKey_escaped (name : String) :
    readKey (name.toList.flatMap escapeCharacter ++ '"' :: ':' :: rest) =
      (.ok name, .ok rest) := by
  have colon : skipSpace (':' :: rest) = ':' :: rest := by
    simp [skipSpace, isSpace]
  simp only [readKey, scanString_printString, colon]

end Assay.Json
