import Assay.Proofs.Identity
import Assay.Text.Identifier
import Mathlib.Computability.Language

/-!
# Identifiers as regular languages

Names and dotted names are regular languages over characters, built from
classes of characters by concatenation and repetition.  The tests on texts
decide membership in them.
-/

open scoped Computability

namespace Assay.Text

/-- The words of one character of a class. -/
def oneOf (allowed : Char → Prop) : Language Char :=
  {word | ∃ character, allowed character ∧ word = [character]}

def Letter (character : Char) : Prop :=
  'A' ≤ character ∧ character ≤ 'Z' ∨ 'a' ≤ character ∧ character ≤ 'z'

def Digit (character : Char) : Prop := '0' ≤ character ∧ character ≤ '9'

/-- What a name can begin with. -/
def Initial (character : Char) : Prop := Letter character ∨ character = '_'

/-- What a name can go on with. -/
def Inner (character : Char) : Prop := Initial character ∨ Digit character

/-- A letter or underscore, then any number of letters, digits and
underscores. -/
def identifiers : Language Char := oneOf Initial * (oneOf Inner)∗

/-- Identifiers, one or more, with a dot between any two neighbours. -/
def dottedIdentifiers : Language Char :=
  identifiers * (oneOf (· = '.') * identifiers)∗

/-! ## Single names -/

theorem isIdentifierStart_iff (character : Char) :
    isIdentifierStart character = true ↔ Initial character := by
  have upper : character.isUpper = true ↔ 'A' ≤ character ∧ character ≤ 'Z' :=
    decide_eq_true_iff
  have lower : character.isLower = true ↔ 'a' ≤ character ∧ character ≤ 'z' :=
    (Bool.and_eq_true_iff).trans (and_congr decide_eq_true_iff decide_eq_true_iff)
  have letter : character.isAlpha = true ↔ Letter character :=
    Bool.or_eq_true_iff.trans (or_congr upper lower)
  simp only [isIdentifierStart, Bool.or_eq_true, letter, beq_iff_eq, Initial]

theorem isDigit_iff (character : Char) : character.isDigit = true ↔ Digit character := by
  simp [Char.isDigit, Digit, Char.le_def, UInt32.le_iff_toNat_le]

theorem isIdentifierPart_iff (character : Char) :
    isIdentifierPart character = true ↔ Inner character := by
  rw [Inner, ← isIdentifierStart_iff, ← isDigit_iff]
  simp only [isIdentifierPart, isIdentifierStart, Char.isAlphanum, Bool.or_eq_true]
  exact or_right_comm

/-- Repetition of a class leaves every character free to be any of the class. -/
theorem mem_kstar_oneOf {allowed : Char → Prop} {word : List Char} :
    word ∈ (oneOf allowed)∗ ↔ ∀ character ∈ word, allowed character := by
  rw [Language.mem_kstar]
  constructor
  · rintro ⟨letters, rfl, members⟩ character inside
    obtain ⟨letter, listed, found⟩ := List.mem_flatten.mp inside
    obtain ⟨only, permitted, rfl⟩ := members letter listed
    rw [List.mem_singleton.mp found]
    exact permitted
  · intro every
    refine ⟨word.map ([·]), ?_, ?_⟩
    · rw [← List.flatMap_def, List.flatMap_singleton']
    · intro letter listed
      obtain ⟨character, inside, rfl⟩ := List.mem_map.mp listed
      exact ⟨character, every character inside, rfl⟩

theorem isIdentifierList_iff (word : List Char) :
    isIdentifierList word = true ↔ word ∈ identifiers := by
  rw [identifiers, Language.mem_mul]
  cases word with
  | nil =>
      refine iff_of_false Bool.false_ne_true ?_
      rintro ⟨_, ⟨character, _, rfl⟩, _, _, empty⟩
      contradiction
  | cons first rest =>
      rw [isIdentifierList, Bool.and_eq_true, isIdentifierStart_iff, List.all_eq_true]
      simp only [isIdentifierPart_iff]
      constructor
      · rintro ⟨initial, inner⟩
        exact ⟨[first], ⟨first, initial, rfl⟩, rest, mem_kstar_oneOf.mpr inner, rfl⟩
      · rintro ⟨_, ⟨character, initial, rfl⟩, tail, inner, same⟩
        obtain ⟨rfl, rfl⟩ := List.cons.inj same
        exact ⟨initial, mem_kstar_oneOf.mp inner⟩

instance (word : List Char) : Decidable (word ∈ identifiers) :=
  decidable_of_iff _ (isIdentifierList_iff word)

@[simp] theorem isIdentifier_iff (text : String) :
    isIdentifier text = true ↔ text.toList ∈ identifiers :=
  isIdentifierList_iff text.toList

/-- A name goes on from its first character to its last. -/
theorem inner_of_mem_identifier
    {word : List Char} (identifier : word ∈ identifiers)
    {character : Char} (inside : character ∈ word) : Inner character := by
  rw [identifiers, Language.mem_mul] at identifier
  obtain ⟨_, ⟨first, initial, rfl⟩, rest, inner, rfl⟩ := identifier
  rcases List.mem_append.mp inside with inFirst | inRest
  · rw [List.mem_singleton.mp inFirst]
    exact .inl initial
  · exact mem_kstar_oneOf.mp inner character inRest

/-- No identifier has a dot in it. -/
theorem dot_not_mem_of_identifier {word : List Char} (identifier : word ∈ identifiers) :
    '.' ∉ word := by
  intro dot
  have inner := inner_of_mem_identifier identifier dot
  exact absurd ((isIdentifierPart_iff '.').mpr inner) (by decide)

theorem Initial.not_blank {character : Char} (initial : Initial character) :
    isBlank character = false := by
  have bounds : 65 ≤ character.toNat ∧ character.toNat ≤ 122 := by
    rcases initial with (⟨low, high⟩ | ⟨low, high⟩) | rfl
    · exact ⟨UInt32.le_iff_toNat_le.mp low,
        (UInt32.le_iff_toNat_le.mp high).trans (by decide)⟩
    · exact ⟨Nat.le_trans (by decide) (UInt32.le_iff_toNat_le.mp low),
        UInt32.le_iff_toNat_le.mp high⟩
    · decide
  simp only [isBlank, Bool.or_eq_false_iff, Bool.and_eq_false_iff, decide_eq_false_iff_not,
    beq_eq_false_iff_ne]
  omega

/-- An identifier begins with a character that is not blank. -/
theorem exists_not_blank_of_identifier {word : List Char} (identifier : word ∈ identifiers) :
    ∃ character ∈ word, isBlank character = false := by
  rw [identifiers, Language.mem_mul] at identifier
  obtain ⟨_, ⟨first, initial, rfl⟩, rest, -, rfl⟩ := identifier
  exact ⟨first, List.mem_cons_self, initial.not_blank⟩

/-! ## Dotted names -/

/-- Parts joined by a separator come apart again. -/
theorem pieces_joined
    {separator : Char} {first : List Char} {rest : List (List Char)}
    (firstWhole : separator ∉ first) (restWhole : ∀ part ∈ rest, separator ∉ part) :
    pieces separator (first ++ rest.flatMap (separator :: ·)) = first :: rest := by
  induction rest generalizing first with
  | nil => rw [List.flatMap_nil, List.append_nil, pieces_of_not_mem firstWhole]
  | cons second rest induction =>
      obtain ⟨secondWhole, laterWhole⟩ := List.forall_mem_cons.mp restWhole
      rw [List.flatMap_cons, List.cons_append, pieces_append, pieces_of_not_mem firstWhole,
        induction secondWhole laterWhole, List.singleton_append]

/-- Nothing is lost between the parts but the separators. -/
theorem joined_pieces
    {separator : Char} {word first : List Char} {rest : List (List Char)}
    (split : pieces separator word = first :: rest) :
    word = first ++ rest.flatMap (separator :: ·) := by
  induction word generalizing first rest with
  | nil =>
      obtain ⟨rfl, rfl⟩ := List.cons.inj split
      rfl
  | cons character word induction =>
      obtain ⟨second, later, shape⟩ :=
        List.exists_cons_of_ne_nil (pieces_ne_nil separator word)
      rw [pieces, shape] at split
      by_cases separates : character = separator
      · obtain ⟨rfl, rfl⟩ := List.cons.inj (by simpa [separates] using split)
        rw [List.flatMap_cons, List.nil_append, List.cons_append, ← induction shape, separates]
      · obtain ⟨rfl, rfl⟩ := List.cons.inj (by simpa [separates] using split)
        rw [List.cons_append, ← induction shape]

theorem mem_kstar_dotted {word : List Char} :
    word ∈ (oneOf (· = '.') * identifiers)∗ ↔
      ∃ parts : List (List Char), (∀ part ∈ parts, part ∈ identifiers) ∧
        word = parts.flatMap ('.' :: ·) := by
  rw [Language.mem_kstar]
  constructor
  · rintro ⟨chunks, rfl, members⟩
    induction chunks with
    | nil => exact ⟨[], by simp, rfl⟩
    | cons chunk chunks induction =>
        obtain ⟨chunkMember, chunksMembers⟩ := List.forall_mem_cons.mp members
        obtain ⟨parts, identifiers, joined⟩ := induction chunksMembers
        obtain ⟨_, ⟨_, rfl, rfl⟩, part, identifier, rfl⟩ := Language.mem_mul.mp chunkMember
        refine ⟨part :: parts, List.forall_mem_cons.mpr ⟨identifier, identifiers⟩, ?_⟩
        rw [List.flatten_cons, List.flatMap_cons, joined, List.singleton_append]
  · rintro ⟨parts, identifiers, rfl⟩
    refine ⟨parts.map ('.' :: ·), List.flatMap_def .., ?_⟩
    intro chunk listed
    obtain ⟨part, inside, rfl⟩ := List.mem_map.mp listed
    exact Language.mem_mul.mpr ⟨['.'], ⟨'.', rfl, rfl⟩, part, identifiers part inside, rfl⟩

theorem all_pieces_iff (word : List Char) :
    (pieces '.' word).all isIdentifierList = true ↔ word ∈ dottedIdentifiers := by
  rw [List.all_eq_true, dottedIdentifiers, Language.mem_mul]
  simp only [isIdentifierList_iff, mem_kstar_dotted]
  constructor
  · intro every
    obtain ⟨first, rest, shape⟩ := List.exists_cons_of_ne_nil (pieces_ne_nil '.' word)
    rw [shape] at every
    obtain ⟨firstIdentifier, restIdentifiers⟩ := List.forall_mem_cons.mp every
    exact ⟨first, firstIdentifier, _, ⟨rest, restIdentifiers, rfl⟩, (joined_pieces shape).symm⟩
  · rintro ⟨first, firstIdentifier, _, ⟨rest, restIdentifiers, rfl⟩, rfl⟩
    rw [pieces_joined (dot_not_mem_of_identifier firstIdentifier)
      fun part inside => dot_not_mem_of_identifier (restIdentifiers part inside)]
    exact List.forall_mem_cons.mpr ⟨firstIdentifier, restIdentifiers⟩

instance (word : List Char) : Decidable (word ∈ dottedIdentifiers) :=
  decidable_of_iff _ (all_pieces_iff word)

theorem exists_not_blank_of_dotted {word : List Char} (dotted : word ∈ dottedIdentifiers) :
    ∃ character ∈ word, isBlank character = false := by
  rw [dottedIdentifiers, Language.mem_mul] at dotted
  obtain ⟨first, identifier, rest, -, rfl⟩ := dotted
  obtain ⟨character, inside, notBlank⟩ := exists_not_blank_of_identifier identifier
  exact ⟨character, List.mem_append_left rest inside, notBlank⟩

/-- A dotted name has no characters but those of its parts and the dots between them. -/
theorem inner_or_dot_of_mem_dotted
    {word : List Char} (dotted : word ∈ dottedIdentifiers)
    {character : Char} (inside : character ∈ word) : Inner character ∨ character = '.' := by
  rw [dottedIdentifiers, Language.mem_mul] at dotted
  obtain ⟨first, identifier, _, more, rfl⟩ := dotted
  obtain ⟨parts, identifiers, rfl⟩ := mem_kstar_dotted.mp more
  rcases List.mem_append.mp inside with inFirst | inRest
  · exact .inl (inner_of_mem_identifier identifier inFirst)
  · obtain ⟨part, listed, found⟩ := List.mem_flatMap.mp inRest
    rcases List.mem_cons.mp found with dot | inPart
    · exact .inr dot
    · exact .inl (inner_of_mem_identifier (identifiers part listed) inPart)

@[simp] theorem isDottedIdentifier_iff (text : String) :
    isDottedIdentifier text = true ↔ text.toList ∈ dottedIdentifiers :=
  all_pieces_iff text.toList

end Assay.Text
