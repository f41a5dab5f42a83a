import Assay.Digest.Sha256
import Assay.Text.Blank
import Assay.Text.Hexadecimal
import Assay.Text.Quoted

/-!
# Identities of definitions

An identity is a text that can be the name of a single entry: it is not blank,
holds no path separator and no two dots in a row.  The identity of a
declaration is derived from its module and its name, so that the same
declaration has the same identity everywhere.
-/

namespace Assay

/-- What a validated text can be refused for. -/
inductive ValidationError where
  | emptyIdentity
  | invalidIdentity (text : String)
  | emptyTypeName
deriving DecidableEq

def ValidationError.message : ValidationError → String
  | .emptyIdentity => "ID cannot be empty"
  | .invalidIdentity text => "Invalid ID '" ++ text ++ "'"
  | .emptyTypeName => "Type name cannot be empty"

namespace Identity

def hasDoubleDot : List Char → Bool
  | '.' :: '.' :: _ => true
  | _ :: rest => hasDoubleDot rest
  | [] => false

/-- Whether a text would leave the entry that it names. -/
def leavesEntry (characters : List Char) : Bool :=
  characters.contains '/' || characters.contains '\\' || hasDoubleDot characters

def isAcceptable (characters : List Char) : Bool :=
  !characters.all Text.isBlank && !leavesEntry characters

end Identity

structure Identity where
  text : String
  acceptable : Identity.isAcceptable text.toList = true
deriving DecidableEq

namespace Identity

/-- Wrap a text that names an entry. -/
def ofText (text : String) : Except ValidationError Identity :=
  if acceptable : isAcceptable text.toList = true then .ok ⟨text, acceptable⟩
  else if text.toList.all Text.isBlank then .error .emptyIdentity
  else .error (.invalidIdentity text)

@[simp] theorem ofText_text (identity : Identity) : ofText identity.text = .ok identity := by
  simp [ofText, identity.acceptable]

/-! ## Derived identities -/

/-- The text that stands for a declaration: module and name with a NUL between them.
Names that are accepted hold no NUL; others are joined all the same. -/
def hashedText (moduleName name : String) : String := moduleName ++ "\x00" ++ name

/-- Hexadecimal digits in groups of eight, four, four, four and twelve. -/
def layOut (digits : List Char) : List Char :=
  digits.take 8 ++ '-' :: (digits.drop 8).take 4 ++ '-' :: (digits.drop 12).take 4
    ++ '-' :: (digits.drop 16).take 4 ++ '-' :: (digits.drop 20).take 12

def hexDigits (bytes : List UInt8) : List Char :=
  bytes.flatMap fun byte => Text.hexByte byte.toNat

/-- Hexadecimal digits and dashes: the characters of a derived identity. -/
def isDerivedCharacter (character : Char) : Bool :=
  ['0', '1', '2', '3', '4', '5', '6', '7', '8', '9', 'a', 'b', 'c', 'd', 'e', 'f', '-'].contains
    character

theorem isDerivedCharacter_hexDigit {digit : Nat} (small : digit < 16) :
    isDerivedCharacter (Text.hexDigit digit) = true := by
  have every : ∀ digit : Fin 16, isDerivedCharacter (Text.hexDigit digit) = true := by decide
  exact every ⟨digit, small⟩

theorem isDerivedCharacter_hexDigits {bytes : List UInt8} {character : Char}
    (member : character ∈ hexDigits bytes) : isDerivedCharacter character = true := by
  simp only [hexDigits, List.mem_flatMap, Text.hexByte, List.mem_cons, List.not_mem_nil,
    or_false] at member
  obtain ⟨byte, -, equality | equality⟩ := member
  · subst equality
    exact isDerivedCharacter_hexDigit (Nat.mod_lt _ (by decide))
  · subst equality
    exact isDerivedCharacter_hexDigit (Nat.mod_lt _ (by decide))

theorem isDerivedCharacter_layOut {digits : List Char}
    (derived : ∀ character ∈ digits, isDerivedCharacter character = true) :
    ∀ character ∈ layOut digits, isDerivedCharacter character = true := by
  intro character member
  have dash : isDerivedCharacter '-' = true := by decide
  simp only [layOut, List.mem_append, List.mem_cons, or_assoc] at member
  rcases member with first | rfl | second | rfl | third | rfl | fourth | rfl | fifth
  · exact derived _ (List.mem_of_mem_take first)
  · exact dash
  · exact derived _ (List.mem_of_mem_drop (List.mem_of_mem_take second))
  · exact dash
  · exact derived _ (List.mem_of_mem_drop (List.mem_of_mem_take third))
  · exact dash
  · exact derived _ (List.mem_of_mem_drop (List.mem_of_mem_take fourth))
  · exact dash
  · exact derived _ (List.mem_of_mem_drop (List.mem_of_mem_take fifth))

theorem hasDoubleDot_eq_false {characters : List Char} (absent : '.' ∉ characters) :
    hasDoubleDot characters = false := by
  induction characters with
  | nil => rfl
  | cons first rest induction =>
      have restAbsent : '.' ∉ rest := fun member => absent (List.mem_cons_of_mem _ member)
      unfold hasDoubleDot
      split
      · rename_i equality
        cases equality
        simp at absent
      · rename_i equality
        cases equality
        exact induction restAbsent
      · rfl

theorem isAcceptable_of_derived {characters : List Char} (dash : '-' ∈ characters)
    (derived : ∀ character ∈ characters, isDerivedCharacter character = true) :
    isAcceptable characters = true := by
  have notDot : '.' ∉ characters := fun member => absurd (derived _ member) (by decide)
  have notSlash : '/' ∉ characters := fun member => absurd (derived _ member) (by decide)
  have notBackslash : '\\' ∉ characters := fun member => absurd (derived _ member) (by decide)
  have notBlank : characters.all Text.isBlank = false := by
    rw [List.all_eq_false]
    exact ⟨'-', dash, by decide⟩
  simp [isAcceptable, leavesEntry, notBlank, hasDoubleDot_eq_false notDot, notSlash, notBackslash]

theorem dash_mem_layOut (digits : List Char) : '-' ∈ layOut digits := by
  simp [layOut]

/-- The identity that a digest function gives to a declaration: the first
sixteen bytes of the digest. -/
def deriveWith (digest : List UInt8 → List UInt8) (moduleName name : String) : Identity :=
  let bytes := digest (hashedText moduleName name).toByteArray.data.toList
  { text := String.ofList (layOut (hexDigits (bytes.take 16)))
    acceptable := by
      rw [String.toList_ofList]
      exact isAcceptable_of_derived (dash_mem_layOut _)
        (isDerivedCharacter_layOut fun _ member => isDerivedCharacter_hexDigits member) }

def derive (moduleName name : String) : Identity := deriveWith Digest.sha256 moduleName name

/-- How a diagnostic shows an identity. -/
def describe (identity : Identity) : String := "TestId(" ++ Text.quote identity.text ++ ")"

end Identity

end Assay
