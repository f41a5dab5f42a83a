import Assay.Proofs.Json.Decoding
import Assay.Proofs.Json.Quotation

/-!
# Values on lines of their own

Whatever the strings of a value hold, its compact text has no control character in it.  So
it is a single line, and texts of several values can be told apart by the line breaks that
end them.
-/

namespace Assay

/-- No character of the text is a control character. -/
def Text.IsClear (characters : List Char) : Prop :=
  ∀ character ∈ characters, 0x20 ≤ character.toNat

namespace Text

instance (characters : List Char) : Decidable (IsClear characters) :=
  List.decidableBAll _ characters

@[simp] theorem isClear_append {left right : List Char} :
    IsClear (left ++ right) ↔ IsClear left ∧ IsClear right :=
  List.forall_mem_append

@[simp] theorem isClear_cons {character : Char} {rest : List Char} :
    IsClear (character :: rest) ↔ 0x20 ≤ character.toNat ∧ IsClear rest :=
  List.forall_mem_cons

@[simp] theorem isClear_nil : IsClear [] := List.forall_mem_nil _

theorem IsClear.newline_not_mem {characters : List Char} (clear : IsClear characters) :
    '\n' ∉ characters := fun present => absurd (clear '\n' present) (by decide)

theorem isClear_of_isDigit
    {characters : List Char} (digit : ∀ character ∈ characters, character.isDigit = true) :
    IsClear characters := by
  intro character member
  have isDigit := digit character member
  simp only [Char.isDigit, Bool.and_eq_true, decide_eq_true_eq] at isDigit
  exact Nat.le_trans (by decide) (UInt32.le_iff_toNat_le.mp isDigit.1)

end Text

/-! ## Numbers and strings -/

namespace NumberLayout

variable {layout : NumberLayout} {digits : List Char}

@[simp] theorem isClear_digitsOf (number : Nat) : Text.IsClear (digitsOf number) :=
  Text.isClear_of_isDigit fun _ => Json.Numeral.isDigit_of_mem_digitsOf

@[simp] theorem isClear_zeros (count : Nat) : Text.IsClear (List.replicate count '0') := by
  intro character member
  rw [List.eq_of_mem_replicate member]
  decide

theorem isClear_plain
    (tail : Text.IsClear layout.integerTail) (clear : Text.IsClear digits) (leading : Int) :
    Text.IsClear (layout.plain digits leading) := by
  have taken : ∀ count, Text.IsClear (digits.take count) :=
    fun _ character member => clear character (List.mem_of_mem_take member)
  have dropped : ∀ count, Text.IsClear (digits.drop count) :=
    fun _ character member => clear character (List.mem_of_mem_drop member)
  unfold plain
  dsimp only
  split
  · simp [clear]
  · split
    · simp [clear, tail]
    · simp [taken, dropped]

theorem isClear_scientific
    (mark : 0x20 ≤ layout.exponentMark.toNat) (sign : Text.IsClear layout.positiveSign)
    (clear : Text.IsClear digits) (leading : Int) :
    Text.IsClear (layout.scientific digits leading) := by
  unfold scientific
  simp only [Text.isClear_append, Text.isClear_cons]
  refine ⟨⟨?mantissa, mark, ?sign⟩, isClear_digitsOf _⟩
  case mantissa =>
    split
    · exact Text.isClear_nil
    · exact clear
    · obtain ⟨first, others⟩ := Text.isClear_cons.mp clear
      exact Text.isClear_cons.mpr ⟨first, Text.isClear_cons.mpr ⟨by decide, others⟩⟩
  case sign =>
    split
    · decide
    · exact sign

end NumberLayout

namespace Json

@[simp] theorem Number.isClear_print (number : Number) : Text.IsClear number.print := by
  have minus : ∀ {negative : Prop} [Decidable negative] {text : List Char},
      Text.IsClear text → Text.IsClear ((if negative then ['-'] else []) ++ text) := by
    intro negative decidable text clear
    refine Text.isClear_append.mpr ⟨?_, clear⟩
    split <;> decide
  have tail : Text.IsClear numberLayout.integerTail := by decide
  cases number with
  | integer value fits => exact minus (NumberLayout.isClear_digitsOf _)
  | binary value finite =>
      have digits : Text.IsClear (NumberLayout.dropTrailingZeros
          (NumberLayout.digitsOf value.shortest.digits)) := by
        intro character member
        rw [NumberLayout.dropTrailingZeros, List.mem_reverse] at member
        exact NumberLayout.isClear_digitsOf _ character
          (List.mem_reverse.mp ((List.dropWhile_sublist _).subset member))
      rw [print, NumberLayout.render]
      split
      · exact minus (Text.isClear_cons.mpr ⟨by decide, tail⟩)
      · apply minus
        unfold NumberLayout.decimal
        dsimp only
        split
        · exact NumberLayout.isClear_plain tail digits _
        · exact NumberLayout.isClear_scientific (by decide) (by decide) digits _

@[simp] theorem isClear_hexByte (byte : Nat) : Text.IsClear (Text.hexByte byte) := by
  have each : ∀ digit : Fin 16, 0x20 ≤ (Text.hexDigit digit).toNat := by decide
  simp only [Text.hexByte, Text.isClear_cons, Text.isClear_nil, and_true]
  exact ⟨each ⟨_, Nat.mod_lt _ (by decide)⟩, each ⟨_, Nat.mod_lt _ (by decide)⟩⟩

/-- Control characters are the ones that do not stand for themselves. -/
@[simp] theorem isClear_escapeCharacter (character : Char) :
    Text.IsClear (escapeCharacter character) := by
  unfold escapeCharacter
  split_ifs with _ _ _ _ _ _ _ control
  all_goals try decide
  · exact Text.isClear_append.mpr ⟨by decide, isClear_hexByte _⟩
  · exact Text.isClear_cons.mpr ⟨Nat.le_of_not_lt control, Text.isClear_nil⟩

@[simp] theorem isClear_printString (text : String) : Text.IsClear (printString text) := by
  refine Text.isClear_cons.mpr ⟨by decide, Text.isClear_append.mpr ⟨?_, by decide⟩⟩
  intro character member
  obtain ⟨original, _, escaped⟩ := List.mem_flatMap.mp member
  exact isClear_escapeCharacter original character escaped

/-! ## Values -/

namespace Value

mutual

theorem isClear_print : ∀ value : Value, Text.IsClear value.print
  | .null => by decide
  | .bool true => by decide
  | .bool false => by decide
  | .number content => content.isClear_print
  | .string text => isClear_printString text
  | .array [] => by decide
  | .array (item :: items) => by
      simp [print, isClear_print item, isClear_printItems items]
  | .object [] => by decide
  | .object ((name, value) :: members) => by
      simp [print, isClear_print value, isClear_printMembers members]

theorem isClear_printItems : ∀ items : List Value, Text.IsClear (printItems items)
  | [] => Text.isClear_nil
  | item :: items => by
      simp [printItems, isClear_print item, isClear_printItems items]

theorem isClear_printMembers :
    ∀ members : List (String × Value), Text.IsClear (printMembers members)
  | [] => Text.isClear_nil
  | (name, value) :: members => by
      simp [printMembers, isClear_print value, isClear_printMembers members]

end

end Value

/-! ## Texts with blanks after them -/

theorem Source.read_print_append
    (spacing : Spacing) (value : Value)
    {blanks : List Char} (blank : ∀ character ∈ blanks, isSpace character = true) :
    Source.read (spacing.print 0 value ++ blanks) = (.reread value, .ok blanks) := by
  have ends : EndsLiteral blanks := by
    have ends := endsLiteral_append blank endsLiteral_nil
    rwa [List.append_nil] at ends
  refine Spacing.reads spacing value 0 _ blanks ?_ ends
  rw [List.length_append]
  omega

/-- A decoder finds in the text of a value what it finds in its tree, whatever blanks come
after it. -/
theorem Decoder.readText_print_append
    {α : Type} (decode : Decoder α) {written : Value} {spacing : Spacing}
    {blanks : List Char} (blank : ∀ character ∈ blanks, isSpace character = true)
    {text : String} (printed : text.toList = spacing.print 0 written ++ blanks) :
    decode.readText text = decode (.text textLevels) (.reread written) := by
  have nothingLeft : (skipSpace blanks).isEmpty = true := by
    have skipped := skipSpace_append blank []
    rw [List.append_nil] at skipped
    rw [skipped]
    rfl
  rw [Decoder.readText, printed, Source.read_print_append spacing written blank]
  cases found : decode (.text textLevels) (.reread written) <;>
    simp only [found, nothingLeft] <;> rfl

end Json

end Assay
