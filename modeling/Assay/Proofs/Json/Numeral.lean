import Assay.Json.Printer
import Assay.Json.Reader
import Mathlib.Data.List.TakeWhile

/-!
# Number literals within a text

A literal is read alike wherever it stands, as long as no character that could
go on with it comes next.  The text of an integer is a literal for that
integer; whether the text of a binary number is one for it depends on how its
digits are read.
-/

namespace Assay

namespace Text

theorem takeWhile_append_of_head
    {accepts : Char → Bool} (characters : List Char) {rest : List Char}
    (stops : ∀ character ∈ rest.head?, accepts character = false) :
    (characters ++ rest).takeWhile accepts = characters.takeWhile accepts := by
  induction characters with
  | nil =>
      cases rest with
      | nil => rfl
      | cons first rest => simp [stops first rfl]
  | cons first characters induction =>
      cases accepted : accepts first <;> simp [accepted, induction]

theorem dropWhile_append_of_head
    {accepts : Char → Bool} (characters : List Char) {rest : List Char}
    (stops : ∀ character ∈ rest.head?, accepts character = false) :
    (characters ++ rest).dropWhile accepts =
      characters.dropWhile accepts ++ rest := by
  induction characters with
  | nil =>
      cases rest with
      | nil => rfl
      | cons first rest => simp [stops first rfl]
  | cons first characters induction =>
      cases accepted : accepts first <;> simp [accepted, induction]

end Text

namespace Json

/-- Nothing that comes next could be a part of a literal. -/
def EndsLiteral (rest : List Char) : Prop :=
  ∀ character ∈ rest.head?,
    character.isDigit = false ∧ character ≠ '.' ∧ character ≠ 'e' ∧ character ≠ 'E'

theorem endsLiteral_nil : EndsLiteral [] := by
  intro character member
  simp at member

theorem endsLiteral_cons
    {character : Char} (rest : List Char)
    (foreign : character.isDigit = false ∧ character ≠ '.' ∧ character ≠ 'e' ∧
      character ≠ 'E') :
    EndsLiteral (character :: rest) := by
  intro other member
  obtain rfl : character = other := by simpa using member
  exact foreign

namespace Numeral

variable {rest : List Char}

theorem scanDigits_append
    (ends : EndsLiteral rest) {text digits left : List Char}
    (scanned : scanDigits text = some (digits, left)) :
    scanDigits (text ++ rest) = some (digits, left ++ rest) := by
  have stops : ∀ character ∈ rest.head?, character.isDigit = false :=
    fun character member => (ends character member).1
  cases text with
  | nil => simp [scanDigits] at scanned
  | cons first more =>
      cases digit : first.isDigit with
      | false => simp [scanDigits, digit] at scanned
      | true =>
          simp only [scanDigits, digit, if_true, Option.some.injEq,
            Prod.mk.injEq] at scanned
          obtain ⟨rfl, rfl⟩ := scanned
          simp only [List.cons_append, scanDigits, digit, if_true,
            Text.takeWhile_append_of_head more stops,
            Text.dropWhile_append_of_head more stops]

theorem scanWhole_append
    (ends : EndsLiteral rest) {text whole left : List Char}
    (scanned : scanWhole text = some (whole, left)) :
    scanWhole (text ++ rest) = some (whole, left ++ rest) := by
  have stops : ∀ character ∈ rest.head?, character.isDigit = false :=
    fun character member => (ends character member).1
  cases text with
  | nil => simp [scanWhole] at scanned
  | cons first more =>
      by_cases zero : first = '0'
      · subst zero
        have next : ((more ++ rest).head?.map Char.isDigit).getD false =
            (more.head?.map Char.isDigit).getD false := by
          cases more with
          | cons second more => rfl
          | nil =>
              cases rest with
              | nil => rfl
              | cons character rest => simpa using stops character rfl
        simp only [scanWhole] at scanned
        simp only [List.cons_append, scanWhole, next]
        split at scanned
        · contradiction
        · rename_i notDigit
          obtain ⟨rfl, rfl⟩ : ['0'] = whole ∧ more = left := by
            simpa using scanned
          rw [if_neg notDigit]
      · have unfolded : ∀ characters : List Char,
            scanWhole (first :: characters) =
              if first.isDigit then
                some (first :: characters.takeWhile Char.isDigit,
                  characters.dropWhile Char.isDigit)
              else none := by
          intro characters
          rw [scanWhole]
          exact fun equal => zero equal
        rw [unfolded] at scanned
        rw [List.cons_append, unfolded, Text.takeWhile_append_of_head more stops,
          Text.dropWhile_append_of_head more stops]
        split at scanned
        · rename_i digit
          obtain ⟨rfl, rfl⟩ : first :: more.takeWhile Char.isDigit = whole ∧
              more.dropWhile Char.isDigit = left := by simpa using scanned
          rw [if_pos digit]
        · contradiction

theorem scanSign_append
    {text : List Char} (nonempty : text ≠ []) :
    scanSign (text ++ rest) = ((scanSign text).1, (scanSign text).2 ++ rest) := by
  cases text with
  | nil => contradiction
  | cons first more =>
      rw [List.cons_append]
      unfold scanSign
      split
      · rename_i equality
        cases equality
        rfl
      · rename_i equality
        cases equality
        rfl
      · rename_i notMinus notPlus
        split
        · rename_i equality
          cases equality
          exact absurd rfl (notMinus _)
        · rename_i equality
          cases equality
          exact absurd rfl (notPlus _)
        · rfl

private theorem missing_ne_literal
    (characters : List Char) (numeral : Numeral) (left : List Char) :
    missing characters ≠ .literal numeral left := by
  unfold missing
  split <;> exact Scan.noConfusion

theorem scanExponent_append
    (ends : EndsLiteral rest)
    {negative : Bool} {whole : List Char} {fraction : Option (List Char)}
    {text left : List Char} {numeral : Numeral}
    (scanned : scanExponent negative whole fraction text = .literal numeral left) :
    scanExponent negative whole fraction (text ++ rest) =
      .literal numeral (left ++ rest) := by
  cases text with
  | nil =>
      obtain ⟨rfl, rfl⟩ :
          (⟨negative, whole, fraction, none⟩ : Numeral) = numeral ∧ [] = left := by
        simpa [scanExponent] using scanned
      cases rest with
      | nil => rfl
      | cons character rest =>
          have notMark : ¬(character = 'e' ∨ character = 'E') := by
            obtain ⟨_, _, notLower, notUpper⟩ := ends character rfl
            simp [notLower, notUpper]
          rw [List.nil_append, scanExponent, if_neg notMark]
  | cons mark more =>
      by_cases isMark : mark = 'e' ∨ mark = 'E'
      · rw [scanExponent, if_pos isMark] at scanned
        rw [List.cons_append, scanExponent, if_pos isMark]
        cases digitsScanned : scanDigits (scanSign more).2 with
        | none =>
            simp only [digitsScanned] at scanned
            exact absurd scanned (missing_ne_literal _ _ _)
        | some result =>
            obtain ⟨digits, afterDigits⟩ := result
            have nonempty : more ≠ [] := by
              rintro rfl
              simp [scanSign, scanDigits] at digitsScanned
            simp only [digitsScanned, Scan.literal.injEq] at scanned
            obtain ⟨rfl, rfl⟩ := scanned
            simp only [scanSign_append nonempty,
              scanDigits_append ends digitsScanned]
      · rw [scanExponent, if_neg isMark] at scanned
        obtain ⟨rfl, rfl⟩ :
            (⟨negative, whole, fraction, none⟩ : Numeral) = numeral ∧
              mark :: more = left := by simpa using scanned
        rw [List.cons_append, scanExponent, if_neg isMark]

/-- What a literal after its sign is read as once its whole part is known. -/
def scanAfterWhole (negative : Bool) (whole : List Char) : List Char → Scan
  | '.' :: text =>
      match scanDigits text with
      | some (fraction, left) => scanExponent negative whole (some fraction) left
      | none => missing text
  | text => scanExponent negative whole none text

theorem scanUnsigned_eq
    (negative : Bool) {text whole left : List Char}
    (scanned : scanWhole text = some (whole, left)) :
    scanUnsigned negative text = scanAfterWhole negative whole left := by
  unfold scanUnsigned scanAfterWhole
  rw [scanned]
  split
  · contradiction
  · rename_i equality
    obtain ⟨rfl, rfl⟩ : whole = _ ∧ left = _ := by simpa using equality
    rfl
  · rename_i notPoint equality
    obtain ⟨rfl, rfl⟩ : whole = _ ∧ left = _ := by simpa using equality
    split
    · exact (notPoint _ rfl).elim
    · rfl

theorem scanAfterWhole_append
    (ends : EndsLiteral rest)
    {negative : Bool} {whole text left : List Char} {numeral : Numeral}
    (scanned : scanAfterWhole negative whole text = .literal numeral left) :
    scanAfterWhole negative whole (text ++ rest) =
      .literal numeral (left ++ rest) := by
  unfold scanAfterWhole at scanned
  split at scanned
  · rename_i text
    rw [List.cons_append, scanAfterWhole]
    split at scanned
    · rename_i fraction afterFraction digitsScanned
      rw [scanDigits_append ends digitsScanned]
      exact scanExponent_append ends scanned
    · exact absurd scanned (missing_ne_literal _ _ _)
  · rename_i notPoint
    have stillNoPoint : ∀ more, text ++ rest ≠ '.' :: more := by
      intro more equality
      cases text with
      | nil =>
          rw [List.nil_append] at equality
          rw [equality] at ends
          exact (ends '.' rfl).2.1 rfl
      | cons first text =>
          obtain ⟨rfl, _⟩ := List.cons.inj equality
          exact notPoint text rfl
    rw [scanAfterWhole]
    · exact scanExponent_append ends scanned
    · exact stillNoPoint

theorem scanUnsigned_append
    (ends : EndsLiteral rest)
    {negative : Bool} {text left : List Char} {numeral : Numeral}
    (scanned : scanUnsigned negative text = .literal numeral left) :
    scanUnsigned negative (text ++ rest) = .literal numeral (left ++ rest) := by
  cases wholeScanned : scanWhole text with
  | none =>
      simp only [scanUnsigned, wholeScanned] at scanned
      exact absurd scanned (missing_ne_literal _ _ _)
  | some result =>
      obtain ⟨whole, afterWhole⟩ := result
      rw [scanUnsigned_eq negative wholeScanned] at scanned
      rw [scanUnsigned_eq negative (scanWhole_append ends wholeScanned)]
      exact scanAfterWhole_append ends scanned

theorem isDigit_of_scanWhole
    {first : Char} {more whole left : List Char}
    (scanned : scanWhole (first :: more) = some (whole, left)) :
    first.isDigit = true := by
  unfold scanWhole at scanned
  split at scanned
  · contradiction
  · rename_i equality
    cases equality
    rfl
  · rename_i equality
    cases equality
    split at scanned
    · assumption
    · contradiction

theorem scan_of_ne_minus
    {first : Char} (different : first ≠ '-') (more : List Char) :
    scan (first :: more) = scanUnsigned false (first :: more) := by
  rw [scan]
  exact fun _ equality => different (List.cons.inj equality).1

/-- A literal begins with a minus sign or with a digit. -/
theorem head_of_scan
    {text left : List Char} {numeral : Numeral}
    (scanned : scan text = .literal numeral left) :
    ∃ first more, text = first :: more ∧ (first = '-' ∨ first.isDigit = true) := by
  cases text with
  | nil => simp [scan, scanUnsigned, scanWhole, missing] at scanned
  | cons first more =>
      refine ⟨first, more, rfl, ?_⟩
      by_cases minus : first = '-'
      · exact Or.inl minus
      · right
        rw [scan_of_ne_minus minus] at scanned
        cases wholeScanned : scanWhole (first :: more) with
        | none =>
            simp only [scanUnsigned, wholeScanned] at scanned
            exact absurd scanned (missing_ne_literal _ _ _)
        | some result => exact isDigit_of_scanWhole wholeScanned

theorem scan_append
    (ends : EndsLiteral rest) {text left : List Char} {numeral : Numeral}
    (scanned : scan text = .literal numeral left) :
    scan (text ++ rest) = .literal numeral (left ++ rest) := by
  obtain ⟨first, more, rfl, _⟩ := head_of_scan scanned
  by_cases minus : first = '-'
  · subst minus
    have unsigned : scanUnsigned true more = .literal numeral left := scanned
    exact scanUnsigned_append ends unsigned
  · rw [scan_of_ne_minus minus] at scanned
    rw [List.cons_append, scan_of_ne_minus minus]
    exact scanUnsigned_append ends scanned

/-! ## Integers -/

theorem head_toDigits_ne_zero {number : Nat} (positive : 0 < number) :
    (Nat.toDigits 10 number).head? ≠ some '0' := by
  induction number using Nat.strongRecOn with
  | ind number induction =>
      rw [Nat.toDigits_eq_if (by decide)]
      by_cases small : number < 10
      · rw [if_pos small]
        intro equality
        have every : ∀ digit : Fin 10, 0 < digit.val →
            [digit.val.digitChar].head? ≠ some '0' := by decide
        exact every ⟨number, small⟩ positive equality
      · have nonempty : (Nat.toDigits 10 (number / 10)).head?.isSome = true := by
          simp [Nat.toDigits_ne_nil]
        rw [if_neg small, List.head?_append, Option.or_of_isSome nonempty]
        exact induction (number / 10) (by omega) (by omega)

theorem isDigit_of_mem_digitsOf
    {number : Nat} {character : Char}
    (member : character ∈ NumberLayout.digitsOf number) :
    character.isDigit = true :=
  Nat.isDigit_of_mem_toDigits (by decide) (by decide) member

theorem scanWhole_digitsOf (number : Nat) :
    scanWhole (NumberLayout.digitsOf number) =
      some (NumberLayout.digitsOf number, []) := by
  rcases Nat.eq_zero_or_pos number with rfl | positive
  · rfl
  · have digits : ∀ character ∈ NumberLayout.digitsOf number,
        character.isDigit = true := fun _ => isDigit_of_mem_digitsOf
    have notZero := head_toDigits_ne_zero positive
    change (NumberLayout.digitsOf number).head? ≠ some '0' at notZero
    cases text : NumberLayout.digitsOf number with
    | nil => exact absurd text Nat.toDigits_ne_nil
    | cons first more =>
        rw [text] at digits notZero
        obtain ⟨firstDigit, moreDigits⟩ := List.forall_mem_cons.mp digits
        have different : first ≠ '0' := fun equal => notZero (equal ▸ rfl)
        rw [scanWhole]
        · rw [if_pos firstDigit, List.takeWhile_eq_self_iff.mpr moreDigits,
            List.dropWhile_eq_nil_iff.mpr moreDigits]
        · exact fun equal => different equal

theorem scanUnsigned_digitsOf (negative : Bool) (number : Nat) :
    scanUnsigned negative (NumberLayout.digitsOf number) =
      .literal ⟨negative, NumberLayout.digitsOf number, none, none⟩ [] := by
  rw [scanUnsigned_eq negative (scanWhole_digitsOf number)]
  rfl

theorem scan_digitsOf (number : Nat) :
    scan (NumberLayout.digitsOf number) =
      .literal ⟨false, NumberLayout.digitsOf number, none, none⟩ [] := by
  rw [← scanUnsigned_digitsOf]
  cases text : NumberLayout.digitsOf number with
  | nil => exact absurd text Nat.toDigits_ne_nil
  | cons first more =>
      apply scan_of_ne_minus
      rintro rfl
      have digit : '-'.isDigit = true :=
        isDigit_of_mem_digitsOf (text ▸ List.mem_cons_self)
      contradiction

theorem scan_minus_digitsOf (number : Nat) :
    scan ('-' :: NumberLayout.digitsOf number) =
      .literal ⟨true, NumberLayout.digitsOf number, none, none⟩ [] :=
  scanUnsigned_digitsOf true number

@[simp] theorem digitsValue_digitsOf (number : Nat) :
    digitsValue (NumberLayout.digitsOf number) = number :=
  Nat.ofDigitChars_ten_toDigits

theorem value?_of_integer
    {negative : Bool} {whole : List Char} {value : Int}
    (fits : fitsInteger value) (notMinusZero : negative = true → value ≠ 0)
    (content : (if negative then -(digitsValue whole : Int)
      else digitsValue whole) = value) :
    (⟨negative, whole, none, none⟩ : Numeral).value? =
      some (.integer value fits) := by
  have asInteger : Number.ofInt? value = some (.integer value fits) := dif_pos fits
  have integer : (⟨negative, whole, none, none⟩ : Numeral).integerValue? =
      some (.integer value fits) := by
    cases negative with
    | false =>
        have same : (digitsValue whole : Int) = value := content
        simp [integerValue?, same, asInteger]
    | true =>
        have same : -(digitsValue whole : Int) = value := content
        have nonzero : digitsValue whole ≠ 0 := by
          have := notMinusZero rfl
          omega
        simp [integerValue?, same, nonzero, asInteger]
  simp only [value?, integer]

end Numeral

theorem readNumber_of_scan
    {text left : List Char} {numeral : Numeral} {number : Number}
    (scanned : Numeral.scan text = .literal numeral left)
    (content : numeral.value? = some number) :
    readNumber text = (.number number, .ok left) := by
  simp only [readNumber, scanned, content]

/-- Where a literal ends does not change what it is read as. -/
theorem readNumber_append
    {text rest : List Char} (ends : EndsLiteral rest) {source : Source}
    (read : readNumber text = (source, .ok [])) :
    readNumber (text ++ rest) = (source, .ok rest) := by
  cases scanned : Numeral.scan text with
  | cut => simp [readNumber, scanned] at read
  | broken => simp [readNumber, scanned] at read
  | literal numeral left =>
      have longer := Numeral.scan_append ends scanned
      cases content : numeral.value? with
      | none =>
          obtain ⟨rfl, rfl⟩ : Source.flawed (unnamedFlaw .malformed none) = source ∧ left = [] := by
            simpa [readNumber, scanned, content] using read
          simp [readNumber, longer, content]
      | some number =>
          obtain ⟨rfl, rfl⟩ : Source.number number = source ∧ left = [] := by
            simpa [readNumber, scanned, content] using read
          exact readNumber_of_scan longer content

namespace Number

/-- The text of the number is read as that number. -/
def ReadsBack (number : Number) : Prop :=
  readNumber number.print = (.number number, .ok [])

theorem readsBack_integer (value : Int) (fits : fitsInteger value) :
    (integer value fits).ReadsBack := by
  by_cases negative : value < 0
  · have text : (integer value fits).print =
        '-' :: NumberLayout.digitsOf value.natAbs := by
      simp [print, negative]
    rw [ReadsBack, text]
    apply readNumber_of_scan (Numeral.scan_minus_digitsOf value.natAbs)
    apply Numeral.value?_of_integer fits
    · intro _
      omega
    · rw [if_pos rfl, Numeral.digitsValue_digitsOf]
      omega
  · have text : (integer value fits).print =
        NumberLayout.digitsOf value.natAbs := by
      simp [print, negative]
    rw [ReadsBack, text]
    apply readNumber_of_scan (Numeral.scan_digitsOf value.natAbs)
    apply Numeral.value?_of_integer fits
    · intro impossible
      contradiction
    · rw [if_neg Bool.false_ne_true, Numeral.digitsValue_digitsOf]
      omega

end Number

end Json

end Assay
