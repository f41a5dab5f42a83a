import Assay.Json.Value

/-!
# Equality of JSON values

Equality of content is an equivalence.  It goes through two values part by
part, so all it takes is that equality of numbers is one; the numbers of a
value are finite, so each of them is equal to itself, and to no other one but
that the two zeros are equal.
-/

namespace Assay

namespace Binary64

theorem isNaN_of_isFinite
    {number : Binary64} (finite : number.isFinite = true) : number.isNaN = false := by
  simp only [isFinite, decide_eq_true_eq] at finite
  simpa [isNaN] using Nat.le_of_lt finite

theorem toNat_bits (number : Binary64) :
    number.bits.toNat = number.magnitude + if number.isNegative then signWeight else 0 := by
  have bound : number.bits.toNat < 2 * signWeight := number.bits.toNat_lt
  rw [magnitude]
  by_cases negative : signWeight ≤ number.bits.toNat
  · rw [isNegative, decide_eq_true negative, if_pos rfl, Nat.mod_eq_sub_mod negative,
      Nat.mod_eq_of_lt (by omega)]
    omega
  · rw [isNegative, decide_eq_false negative, if_neg Bool.false_ne_true,
      Nat.mod_eq_of_lt (Nat.lt_of_not_le negative)]
    rfl

theorem eq_of_magnitude
    {left right : Binary64} (sign : left.isNegative = right.isNegative)
    (size : left.magnitude = right.magnitude) : left = right := by
  have bits : left.bits.toNat = right.bits.toNat := by
    rw [toNat_bits, toNat_bits, sign, size]
  exact congrArg Binary64.mk (UInt64.toNat_inj.mp bits)

/-- Only the two zeros share an order key. -/
theorem orderKey_eq_iff (left right : Binary64) :
    left.orderKey = right.orderKey ↔
      left = right ∨ left.isZero = true ∧ right.isZero = true := by
  simp only [isZero, beq_iff_eq]
  constructor
  · intro keys
    by_cases sign : left.isNegative = right.isNegative
    · left
      refine eq_of_magnitude sign ?_
      simp only [orderKey, sign] at keys
      split at keys <;> omega
    · right
      cases negative : right.isNegative with
      | true =>
          rw [negative, Bool.not_eq_true] at sign
          simp only [orderKey, sign, negative, Bool.false_eq_true, if_false, if_true] at keys
          omega
      | false =>
          rw [negative, Bool.not_eq_false] at sign
          simp only [orderKey, sign, negative, Bool.false_eq_true, if_false, if_true] at keys
          omega
  · rintro (rfl | ⟨leftZero, rightZero⟩)
    · rfl
    · simp [orderKey, leftZero, rightZero]

end Binary64

namespace Json

namespace Number

@[simp] theorem same_refl (number : Number) : number.same number = true := by
  cases number with
  | integer value fits => simp [same]
  | binary value finite => exact Binary64.same_refl (Binary64.isNaN_of_isFinite finite)

/-- Finite numbers are equal if they are the same number, or both of them zeros. -/
theorem same_binary_iff
    {left right : Binary64} (leftFinite : left.isFinite = true)
    (rightFinite : right.isFinite = true) :
    (binary left leftFinite).same (.binary right rightFinite) = true ↔
      left = right ∨ left.isZero = true ∧ right.isZero = true := by
  have leftOrdinary := Binary64.isNaN_of_isFinite leftFinite
  have rightOrdinary := Binary64.isNaN_of_isFinite rightFinite
  simp only [same, Binary64.same, leftOrdinary, rightOrdinary, Bool.not_false, Bool.true_and,
    beq_iff_eq, Binary64.orderKey_eq_iff]

theorem same_symm (left right : Number) : left.same right = right.same left := by
  cases left with
  | integer leftValue leftFits =>
      cases right with
      | integer rightValue rightFits => exact BEq.comm
      | binary rightValue rightFinite => rfl
  | binary leftValue leftFinite =>
      cases right with
      | integer rightValue rightFits => rfl
      | binary rightValue rightFinite =>
          exact Binary64.same_symm leftValue rightValue

theorem same_trans
    {left middle right : Number}
    (first : left.same middle = true) (second : middle.same right = true) :
    left.same right = true := by
  cases left with
  | integer leftValue leftFits =>
      cases middle with
      | binary middleValue middleFinite => simp [same] at first
      | integer middleValue middleFits =>
          cases right with
          | binary rightValue rightFinite => simp [same] at second
          | integer rightValue rightFits =>
              simp only [same, beq_iff_eq] at first second ⊢
              exact first.trans second
  | binary leftValue leftFinite =>
      cases middle with
      | integer middleValue middleFits => simp [same] at first
      | binary middleValue middleFinite =>
          cases right with
          | integer rightValue rightFits => simp [same] at second
          | binary rightValue rightFinite =>
              exact Binary64.same_trans first second

end Number

namespace Value

mutual

@[simp] theorem same_refl : ∀ value : Value, value.same value = true
  | .null => rfl
  | .bool content => by simp [same]
  | .number content => Number.same_refl content
  | .string content => by simp [same]
  | .array items => sameItems_refl items
  | .object members => sameMembers_refl members

@[simp] theorem sameItems_refl : ∀ items : List Value, sameItems items items = true
  | [] => rfl
  | item :: items => by
      simp [sameItems, same_refl item, sameItems_refl items]

@[simp] theorem sameMembers_refl :
    ∀ members : List (String × Value), sameMembers members members = true
  | [] => rfl
  | (name, value) :: members => by
      simp [sameMembers, same_refl value, sameMembers_refl members]

end

mutual

theorem same_symm : ∀ left right : Value, left.same right = right.same left
  | .null, right => by cases right <;> rfl
  | .bool leftContent, right => by
      cases right with
      | bool rightContent => exact BEq.comm
      | _ => rfl
  | .number leftContent, right => by
      cases right with
      | number rightContent => exact Number.same_symm leftContent rightContent
      | _ => rfl
  | .string leftContent, right => by
      cases right with
      | string rightContent => exact BEq.comm
      | _ => rfl
  | .array leftItems, right => by
      cases right with
      | array rightItems => exact sameItems_symm leftItems rightItems
      | _ => rfl
  | .object leftMembers, right => by
      cases right with
      | object rightMembers => exact sameMembers_symm leftMembers rightMembers
      | _ => rfl

theorem sameItems_symm :
    ∀ lefts rights : List Value, sameItems lefts rights = sameItems rights lefts
  | [], [] => rfl
  | [], _ :: _ => rfl
  | _ :: _, [] => rfl
  | left :: lefts, right :: rights => by
      simp only [sameItems, same_symm left right, sameItems_symm lefts rights]

theorem sameMembers_symm :
    ∀ lefts rights : List (String × Value),
      sameMembers lefts rights = sameMembers rights lefts
  | [], [] => rfl
  | [], _ :: _ => rfl
  | _ :: _, [] => rfl
  | (leftName, left) :: lefts, (rightName, right) :: rights => by
      simp only [sameMembers, same_symm left right, sameMembers_symm lefts rights,
        BEq.comm (a := leftName)]

end

mutual

theorem same_trans : ∀ left middle right : Value,
    left.same middle = true → middle.same right = true → left.same right = true
  | .null, middle, right, first, second => by
      cases middle with
      | null => exact second
      | _ => simp [same] at first
  | .bool leftContent, middle, right, first, second => by
      cases middle with
      | bool middleContent =>
          obtain rfl : leftContent = middleContent := by simpa [same] using first
          exact second
      | _ => simp [same] at first
  | .number leftContent, middle, right, first, second => by
      cases middle with
      | number middleContent =>
          cases right with
          | number rightContent => exact Number.same_trans first second
          | _ => simp [same] at second
      | _ => simp [same] at first
  | .string leftContent, middle, right, first, second => by
      cases middle with
      | string middleContent =>
          obtain rfl : leftContent = middleContent := by simpa [same] using first
          exact second
      | _ => simp [same] at first
  | .array leftItems, middle, right, first, second => by
      cases middle with
      | array middleItems =>
          cases right with
          | array rightItems =>
              exact sameItems_trans leftItems middleItems rightItems first second
          | _ => simp [same] at second
      | _ => simp [same] at first
  | .object leftMembers, middle, right, first, second => by
      cases middle with
      | object middleMembers =>
          cases right with
          | object rightMembers =>
              exact sameMembers_trans leftMembers middleMembers rightMembers
                first second
          | _ => simp [same] at second
      | _ => simp [same] at first

theorem sameItems_trans : ∀ lefts middles rights : List Value,
    sameItems lefts middles = true → sameItems middles rights = true →
      sameItems lefts rights = true
  | [], [], _, _, second => second
  | [], _ :: _, _, first, _ => by simp [sameItems] at first
  | _ :: _, [], _, first, _ => by simp [sameItems] at first
  | _ :: _, _ :: _, [], _, second => by simp [sameItems] at second
  | left :: lefts, middle :: middles, right :: rights, first, second => by
      simp only [sameItems, Bool.and_eq_true] at first second ⊢
      exact ⟨same_trans left middle right first.1 second.1,
        sameItems_trans lefts middles rights first.2 second.2⟩

theorem sameMembers_trans : ∀ lefts middles rights : List (String × Value),
    sameMembers lefts middles = true → sameMembers middles rights = true →
      sameMembers lefts rights = true
  | [], [], _, _, second => second
  | [], _ :: _, _, first, _ => by simp [sameMembers] at first
  | _ :: _, [], _, first, _ => by simp [sameMembers] at first
  | _ :: _, _ :: _, [], _, second => by simp [sameMembers] at second
  | (leftName, left) :: lefts, (middleName, middle) :: middles,
      (rightName, right) :: rights, first, second => by
      simp only [sameMembers, Bool.and_eq_true, beq_iff_eq] at first second ⊢
      obtain ⟨⟨firstName, firstValue⟩, firstRest⟩ := first
      obtain ⟨⟨secondName, secondValue⟩, secondRest⟩ := second
      exact ⟨⟨firstName.trans secondName,
          same_trans left middle right firstValue secondValue⟩,
        sameMembers_trans lefts middles rights firstRest secondRest⟩

end

end Value

end Json

end Assay
