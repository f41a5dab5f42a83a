import Assay.Proofs.Json.Numeral

/-!
# Texts of numbers are literals

The text of a number is a literal, whether or not it is one for that number: the
shortest decimal of a number other than zero has digits, and the layout of digits
keeps to the grammar of literals.
-/

namespace Assay

namespace Binary64

/-! ## Shortest decimals are positive -/

theorem significand_pos {number : Binary64} (nonzero : number.isZero = false) :
    0 < number.significand := by
  have positive : number.magnitude ≠ 0 := by simpa [isZero] using nonzero
  have whole := Nat.div_add_mod number.magnitude fractionCount
  unfold significand
  split
  · rename_i subnormal
    rw [exponentField] at subnormal
    rw [subnormal, Nat.mul_zero, Nat.zero_add] at whole
    omega
  · exact Nat.add_pos_left (by decide) _

theorem lowerQuarters_pos {number : Binary64} (positive : 0 < number.significand) :
    0 < number.lowerQuarters := by
  unfold lowerQuarters
  split <;> omega

theorem powerUp_pos {base : Nat} (positive : 0 < base) (exponent : Int) :
    0 < powerUp base exponent :=
  Nat.pow_pos positive

/-- Zero is not rounded to a number other than zero. -/
theorem not_readsBack_zero
    {number : Binary64} (positive : 0 < number.significand) (exponent : Int) :
    number.readsBack exponent 0 = false := by
  have low : 0 < number.quartersOnGrid exponent number.lowerQuarters :=
    Nat.mul_pos (Nat.mul_pos (lowerQuarters_pos positive) (powerUp_pos (by decide) _))
      (powerUp_pos (by decide) _)
  unfold readsBack
  simp only [Nat.zero_mul]
  split
  · simp only [Bool.and_eq_false_iff, decide_eq_false_iff_not]
    omega
  · simp

theorem le_roundQuotient (numerator denominator : Nat) :
    numerator / denominator ≤ roundQuotient numerator denominator := by
  unfold roundQuotient
  simp only
  split
  · exact Nat.le_refl _
  · split
    · exact Nat.le_succ _
    · split
      · exact Nat.le_refl _
      · exact Nat.le_succ _

theorem nearestOnGrid?_pos
    {number : Binary64} (positive : 0 < number.significand) {exponent : Int} {digits : Nat}
    (found : number.nearestOnGrid? exponent = some digits) : 0 < digits := by
  have belowPositive : ∀ below, number.readsBack exponent below = true → 0 < below := by
    intro below fits
    refine Nat.pos_of_ne_zero ?_
    rintro rfl
    rw [not_readsBack_zero positive] at fits
    contradiction
  unfold nearestOnGrid? at found
  simp only at found
  split at found
  · rename_i both
    obtain ⟨belowFits, _⟩ := (Bool.and_eq_true _ _).mp both
    cases found
    exact Nat.lt_of_lt_of_le (belowPositive _ belowFits) (le_roundQuotient _ _)
  · split at found
    · rename_i belowFits
      cases found
      exact belowPositive _ belowFits
    · split at found
      · cases found
        exact Nat.succ_pos _
      · contradiction

theorem shortest_digits_pos {number : Binary64} (nonzero : number.isZero = false) :
    0 < number.shortest.digits := by
  have positive := significand_pos nonzero
  unfold shortest
  simp only
  cases search : digitCounts.findSome? fun (count : Nat) =>
      (number.nearestOnGrid? (number.leadingExponent + 1 - count)).map fun digits =>
        Decimal.mk digits (number.leadingExponent + 1 - count) with
  | none => exact positive
  | some decimal =>
      obtain ⟨count, _, found⟩ := List.exists_of_findSome?_eq_some search
      obtain ⟨digits, onGrid, rfl⟩ := Option.map_eq_some_iff.mp found
      exact nearestOnGrid?_pos positive onGrid

end Binary64

namespace Json

namespace Numeral

variable {digits rest : List Char}

/-! ## Digits within a literal -/

/-- Digits that can stand before a point: they do not begin with a zero. -/
structure Leads (digits : List Char) : Prop where
  nonempty : digits ≠ []
  digit : ∀ character ∈ digits, character.isDigit = true
  notZero : digits.head? ≠ some '0'

/-- What comes next is no digit. -/
def EndsDigits (rest : List Char) : Prop :=
  ∀ character ∈ rest.head?, character.isDigit = false

theorem takeWhile_digits
    (digit : ∀ character ∈ digits, character.isDigit = true) (ends : EndsDigits rest) :
    (digits ++ rest).takeWhile Char.isDigit = digits := by
  rw [List.takeWhile_append_of_pos digit]
  cases rest with
  | nil => simp
  | cons first rest => simp [ends first rfl]

theorem dropWhile_digits
    (digit : ∀ character ∈ digits, character.isDigit = true) (ends : EndsDigits rest) :
    (digits ++ rest).dropWhile Char.isDigit = rest := by
  rw [List.dropWhile_append_of_pos digit]
  cases rest with
  | nil => rfl
  | cons first rest => simp [ends first rfl]

theorem scanDigits_of_digits
    (nonempty : digits ≠ []) (digit : ∀ character ∈ digits, character.isDigit = true)
    (ends : EndsDigits rest) :
    scanDigits (digits ++ rest) = some (digits, rest) := by
  obtain ⟨first, more, rfl⟩ := List.exists_cons_of_ne_nil nonempty
  obtain ⟨firstDigit, moreDigits⟩ := List.forall_mem_cons.mp digit
  rw [List.cons_append, scanDigits, if_pos firstDigit, takeWhile_digits moreDigits ends,
    dropWhile_digits moreDigits ends]

theorem Leads.scanWhole (leads : Leads digits) (ends : EndsDigits rest) :
    scanWhole (digits ++ rest) = some (digits, rest) := by
  obtain ⟨nonempty, digit, notZero⟩ := leads
  obtain ⟨first, more, rfl⟩ := List.exists_cons_of_ne_nil nonempty
  obtain ⟨firstDigit, moreDigits⟩ := List.forall_mem_cons.mp digit
  have different : first ≠ '0' := fun equal => notZero (equal ▸ rfl)
  rw [List.cons_append, Numeral.scanWhole]
  · rw [if_pos firstDigit, takeWhile_digits moreDigits ends, dropWhile_digits moreDigits ends]
  · exact fun equal => different equal

theorem endsDigits_nil : EndsDigits [] := by
  intro character member
  simp at member

theorem endsDigits_cons
    {character : Char} (notDigit : character.isDigit = false) (rest : List Char) :
    EndsDigits (character :: rest) := by
  intro other member
  obtain rfl : character = other := by simpa using member
  exact notDigit

namespace Leads

theorem append_zeros (leads : Leads digits) (count : Nat) :
    Leads (digits ++ List.replicate count '0') := by
  obtain ⟨nonempty, digit, notZero⟩ := leads
  obtain ⟨first, more, rfl⟩ := List.exists_cons_of_ne_nil nonempty
  refine ⟨by simp, ?_, notZero⟩
  intro character member
  rcases List.mem_append.mp member with old | zero
  · exact digit character old
  · rw [List.eq_of_mem_replicate zero]
    rfl

theorem take_succ (leads : Leads digits) (count : Nat) : Leads (digits.take (count + 1)) := by
  obtain ⟨nonempty, digit, notZero⟩ := leads
  obtain ⟨first, more, rfl⟩ := List.exists_cons_of_ne_nil nonempty
  exact ⟨by simp, fun character member => digit character (List.mem_of_mem_take member), notZero⟩

end Leads

/-! ## Literals -/

theorem scanUnsigned_fraction
    (negative : Bool) {whole fraction tail : List Char}
    (wholeScanned : scanWhole (whole ++ '.' :: (fraction ++ tail)) =
      some (whole, '.' :: (fraction ++ tail)))
    (nonempty : fraction ≠ []) (digit : ∀ character ∈ fraction, character.isDigit = true)
    (ends : EndsDigits tail) :
    scanUnsigned negative (whole ++ '.' :: (fraction ++ tail)) =
      scanExponent negative whole (some fraction) tail := by
  rw [scanUnsigned_eq negative wholeScanned, scanAfterWhole,
    scanDigits_of_digits nonempty digit ends]

theorem scanExponent_marked
    (negative : Bool) (whole : List Char) (fraction : Option (List Char))
    {sign : List Char} (signed : sign = ['-'] ∨ sign = ['+']) (size : Nat) :
    ∃ numeral, scanExponent negative whole fraction
      ('e' :: (sign ++ NumberLayout.digitsOf size)) = .literal numeral [] := by
  have scanned : scanDigits (NumberLayout.digitsOf size ++ []) =
      some (NumberLayout.digitsOf size, []) :=
    scanDigits_of_digits Nat.toDigits_ne_nil (fun _ => isDigit_of_mem_digitsOf) endsDigits_nil
  rw [List.append_nil] at scanned
  rw [scanExponent, if_pos (.inl rfl)]
  rcases signed with rfl | rfl
  · simp only [List.singleton_append, scanSign, scanned]
    exact ⟨_, rfl⟩
  · simp only [List.singleton_append, scanSign, scanned]
    exact ⟨_, rfl⟩

theorem scanUnsigned_plain
    (negative : Bool) (leads : Leads digits) (leading : Int) :
    ∃ numeral, scanUnsigned negative (numberLayout.plain digits leading) =
      .literal numeral [] := by
  have literal : ∀ whole fraction : List Char,
      scanWhole (whole ++ '.' :: fraction) = some (whole, '.' :: fraction) →
      fraction ≠ [] → (∀ character ∈ fraction, character.isDigit = true) →
      ∃ numeral, scanUnsigned negative (whole ++ '.' :: fraction) = .literal numeral [] := by
    intro whole fraction wholeScanned nonempty digit
    rw [← List.append_nil fraction] at wholeScanned ⊢
    exact ⟨_, scanUnsigned_fraction negative wholeScanned nonempty digit endsDigits_nil⟩
  have point : ∀ fraction, EndsDigits ('.' :: fraction) := endsDigits_cons rfl
  unfold NumberLayout.plain
  split
  · refine literal ['0'] _ rfl ?_ ?_
    · simp [leads.nonempty]
    · intro character member
      rcases List.mem_append.mp member with zero | digit
      · rw [List.eq_of_mem_replicate zero]
        rfl
      · exact leads.digit character digit
  · dsimp only
    split
    · have zero : ∀ character ∈ ['0'], character.isDigit = true := by
        intro character member
        rw [List.mem_singleton.mp member]
        rfl
      exact literal _ ['0'] ((leads.append_zeros _).scanWhole (point _))
        (List.cons_ne_nil _ _) zero
    · rename_i long
      refine literal _ _ ((leads.take_succ _).scanWhole (point _)) ?_ ?_
      · rw [ne_eq, List.drop_eq_nil_iff]
        exact long
      · exact fun character member => leads.digit character (List.mem_of_mem_drop member)

theorem scanUnsigned_scientific
    (negative : Bool) (leads : Leads digits) (leading : Int) :
    ∃ numeral, scanUnsigned negative (numberLayout.scientific digits leading) =
      .literal numeral [] := by
  let sign := if leading < 0 then ['-'] else numberLayout.positiveSign
  have signed : sign = ['-'] ∨ sign = ['+'] := by
    unfold sign
    split
    · exact .inl rfl
    · exact .inr rfl
  let exponent := 'e' :: (sign ++ NumberLayout.digitsOf leading.natAbs)
  have ends : EndsDigits exponent := endsDigits_cons rfl _
  match digits, leads with
  | [], leads => exact absurd rfl leads.nonempty
  | [digit], leads =>
      have text : numberLayout.scientific [digit] leading = [digit] ++ exponent :=
        List.append_assoc [digit] ('e' :: sign) (NumberLayout.digitsOf leading.natAbs)
      rw [text, scanUnsigned_eq negative (leads.scanWhole ends)]
      exact scanExponent_marked negative [digit] none signed leading.natAbs
  | digit :: second :: more, leads =>
      have text : numberLayout.scientific (digit :: second :: more) leading =
          [digit] ++ '.' :: ((second :: more) ++ exponent) :=
        List.append_assoc (digit :: '.' :: second :: more) ('e' :: sign)
          (NumberLayout.digitsOf leading.natAbs)
      have whole : Leads [digit] := leads.take_succ 0
      have point : EndsDigits ('.' :: ((second :: more) ++ exponent)) := endsDigits_cons rfl _
      have fraction : ∀ character ∈ second :: more, character.isDigit = true :=
        fun character member => leads.digit character (List.mem_cons_of_mem _ member)
      rw [text, scanUnsigned_fraction negative (whole.scanWhole point) (List.cons_ne_nil _ _)
        fraction ends]
      exact scanExponent_marked negative [digit] (some (second :: more)) signed leading.natAbs

private theorem dropTrailingZeros_cons
    {first : Char} (notZero : first ≠ '0') (more : List Char) :
    NumberLayout.dropTrailingZeros (first :: more) =
      first :: NumberLayout.dropTrailingZeros more := by
  simp only [NumberLayout.dropTrailingZeros, List.reverse_cons, List.dropWhile_append]
  split
  · rename_i zeros
    rw [List.isEmpty_iff.mp zeros]
    simp [notZero]
  · simp

theorem leads_digitsOf {number : Nat} (positive : 0 < number) :
    Leads (NumberLayout.digitsOf number) :=
  ⟨Nat.toDigits_ne_nil, fun _ => isDigit_of_mem_digitsOf, head_toDigits_ne_zero positive⟩

theorem Leads.dropTrailingZeros (leads : Leads digits) :
    Leads (NumberLayout.dropTrailingZeros digits) := by
  obtain ⟨nonempty, digit, notZero⟩ := leads
  obtain ⟨first, more, rfl⟩ := List.exists_cons_of_ne_nil nonempty
  have different : first ≠ '0' := fun equal => notZero (equal ▸ rfl)
  have kept : ∀ character ∈ NumberLayout.dropTrailingZeros (first :: more),
      character.isDigit = true := by
    intro character member
    rw [NumberLayout.dropTrailingZeros, List.mem_reverse] at member
    exact digit character (List.mem_reverse.mp ((List.dropWhile_sublist _).subset member))
  rw [dropTrailingZeros_cons different] at kept ⊢
  exact ⟨List.cons_ne_nil _ _, kept, notZero⟩

theorem scanUnsigned_decimal
    (negative : Bool) {number : Decimal} (positive : 0 < number.digits) :
    ∃ numeral, scanUnsigned negative (numberLayout.decimal number) = .literal numeral [] := by
  have leads := (leads_digitsOf positive).dropTrailingZeros
  unfold NumberLayout.decimal
  dsimp only
  split
  · exact scanUnsigned_plain negative leads _
  · exact scanUnsigned_scientific negative leads _

/-- What is a literal after a sign is one without a sign. -/
theorem scan_of_scanUnsigned
    {text : List Char} {numeral : Numeral}
    (scanned : scanUnsigned false text = .literal numeral []) :
    scan text = .literal numeral [] := by
  rw [scan]
  · exact scanned
  · rintro more rfl
    simp [scanUnsigned, scanWhole, missing] at scanned

end Numeral

namespace Number

/-- The text of a number is a literal. -/
theorem scan_print (number : Number) :
    ∃ numeral, Numeral.scan number.print = .literal numeral [] := by
  have signed : ∀ {negative : Prop} [Decidable negative] {text : List Char},
      (∀ sign, ∃ numeral, Numeral.scanUnsigned sign text = .literal numeral []) →
      ∃ numeral, Numeral.scan ((if negative then ['-'] else []) ++ text) =
        .literal numeral [] := by
    intro negative decidable text unsigned
    split
    · exact unsigned true
    · obtain ⟨numeral, scanned⟩ := unsigned false
      exact ⟨numeral, Numeral.scan_of_scanUnsigned scanned⟩
  cases number with
  | integer value fits =>
      exact signed fun sign => ⟨_, Numeral.scanUnsigned_digitsOf sign value.natAbs⟩
  | binary value finite =>
      rw [print, NumberLayout.render]
      split
      · exact signed fun sign => ⟨_, rfl⟩
      · rename_i nonzero
        have positive := value.shortest_digits_pos (Bool.eq_false_iff.mpr nonzero)
        exact signed fun sign => Numeral.scanUnsigned_decimal sign positive

/-- What the text of a number is read as: a number, or a flaw if it is too large
for any. -/
def reread (number : Number) : Source := (readNumber number.print).1

@[simp] theorem readNumber_print (number : Number) :
    readNumber number.print = (number.reread, .ok []) := by
  obtain ⟨numeral, scanned⟩ := number.scan_print
  have left : (readNumber number.print).2 = .ok [] := by
    simp only [readNumber, scanned]
    cases numeral.value? <;> rfl
  rw [reread, ← left]

theorem reread_number_or_flawed (number : Number) :
    (∃ again, number.reread = .number again) ∨ ∃ flaw, number.reread = .flawed flaw := by
  obtain ⟨numeral, scanned⟩ := number.scan_print
  simp only [reread, readNumber, scanned]
  cases numeral.value? with
  | some again => exact .inl ⟨again, rfl⟩
  | none => exact .inr ⟨_, rfl⟩

theorem head_print (number : Number) :
    ∃ first more, number.print = first :: more ∧ (first = '-' ∨ first.isDigit = true) := by
  obtain ⟨numeral, scanned⟩ := number.scan_print
  exact Numeral.head_of_scan scanned

theorem readsBack_iff (number : Number) :
    number.ReadsBack ↔ number.reread = .number number := by
  rw [ReadsBack, readNumber_print, Prod.mk.injEq]
  exact and_iff_left rfl

end Number

end Json

end Assay
