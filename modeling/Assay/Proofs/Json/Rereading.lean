import Assay.Proofs.Json.Decoding
import Assay.Proofs.Json.Equality

/-!
# Values that are found again in their texts

A value that is taken out of its own text again is nested no deeper than the
text may be, and all of its numbers are read back.
-/

namespace Assay

namespace Binary64

theorem eq_zero_of_isZero {number : Binary64} (zero : number.isZero = true) :
    number = .zero number.isNegative := by
  have size : number.magnitude = 0 := beq_iff_eq.mp zero
  refine eq_of_magnitude ?_ ?_
  · cases number.isNegative <;> rfl
  · rw [size]
    cases number.isNegative <;> rfl

end Binary64

namespace Json

namespace Number

theorem readsBack_of_isZero
    {value : Binary64} {finite : value.isFinite = true} (zero : value.isZero = true) :
    (binary value finite).ReadsBack := by
  have content := Binary64.eq_zero_of_isZero zero
  cases sign : value.isNegative with
  | false =>
      rw [sign] at content
      subst content
      rfl
  | true =>
      rw [sign] at content
      subst content
      rfl

/-- A number that is read as an equal one is read back. -/
theorem readsBack_of_same
    {number again : Number} (read : number.reread = .number again)
    (same : again.same number = true) : number.ReadsBack := by
  cases number with
  | integer value fits => exact readsBack_integer value fits
  | binary value finite =>
      cases again with
      | integer other otherFits => simp [Number.same] at same
      | binary other otherFinite =>
          rcases (same_binary_iff otherFinite finite).mp same with rfl | ⟨-, zero⟩
          · exact (readsBack_iff _).mpr read
          · exact readsBack_of_isZero zero

end Number

namespace Decoder

/-! ## Values taken out of their texts -/

theorem valueItems_reread
    {medium : Medium} {items contents : List Value}
    (read : valueItems (Source.rereadItems items) medium = .ok contents)
    (same : Value.sameItems contents items = true) :
    ∀ item ∈ items, ∃ content,
      value (.reread item) medium = .ok content ∧ content.same item = true := by
  induction items generalizing contents with
  | nil => exact List.forall_mem_nil _
  | cons item items induction =>
      rw [Source.rereadItems, valueItems] at read
      obtain ⟨content, first, read⟩ := bind_eq_ok read
      obtain ⟨others, rest, read⟩ := bind_eq_ok read
      cases read
      simp only [Value.sameItems, Bool.and_eq_true] at same
      exact List.forall_mem_cons.mpr ⟨⟨content, first, same.1⟩, induction rest same.2⟩

theorem valueMembers_reread_cons
    {medium : Medium} {name : String} {member : Value} {members : List (String × Value)}
    {contents : List (String × Value)}
    (read : valueMembers (Source.rereadMembers ((name, member) :: members)) medium =
      .ok contents) :
    ∃ content others, contents = (name, content) :: others ∧
      value (.reread member) medium = .ok content ∧
        valueMembers (Source.rereadMembers members) medium = .ok others := by
  rw [Source.rereadMembers, valueMembers, readName] at read
  obtain ⟨_, named, read⟩ := bind_eq_ok read
  obtain ⟨content, first, read⟩ := bind_eq_ok read
  obtain ⟨others, rest, read⟩ := bind_eq_ok read
  cases named
  cases read
  exact ⟨content, others, rfl, first, rest⟩

/-- Members are taken out under their names. -/
theorem map_valueMembers_reread
    {medium : Medium} {members contents : List (String × Value)}
    (read : valueMembers (Source.rereadMembers members) medium = .ok contents) :
    contents.map (·.1) = members.map (·.1) := by
  induction members generalizing contents with
  | nil =>
      cases read
      rfl
  | cons member members induction =>
      obtain ⟨content, others, rfl, _, rest⟩ := valueMembers_reread_cons read
      rw [List.map_cons, List.map_cons, induction rest]

theorem valueMembers_reread
    {medium : Medium} {members contents : List (String × Value)}
    (read : valueMembers (Source.rereadMembers members) medium = .ok contents)
    (same : Value.sameMembers contents members = true) :
    ∀ member ∈ members, ∃ content,
      value (.reread member.2) medium = .ok content ∧ content.same member.2 = true := by
  induction members generalizing contents with
  | nil => exact List.forall_mem_nil _
  | cons member members induction =>
      obtain ⟨content, others, rfl, first, rest⟩ := valueMembers_reread_cons read
      simp only [Value.sameMembers, Bool.and_eq_true] at same
      exact List.forall_mem_cons.mpr ⟨⟨content, first, same.1.2⟩, induction rest same.2⟩

/-- A value that is taken out of its own text again is nested no deeper than the
text may be, and its numbers are read back. -/
theorem orderedWithin_and_legible_of_value
    {depth levels : Nat} {content read : Value} (within : content.OrderedWithin depth)
    (found : value (.reread content) (.text levels) = .ok read)
    (same : read.same content = true) :
    content.OrderedWithin levels ∧ content.Legible := by
  induction within generalizing levels read with
  | null => exact ⟨.null, .null⟩
  | bool content => exact ⟨.bool content, .bool content⟩
  | string text => exact ⟨.string text, .string text⟩
  | number content =>
      rw [Source.reread] at found
      rcases content.reread_number_or_flawed with ⟨again, readAgain⟩ | ⟨flaw, flawed⟩
      · rw [readAgain] at found
        cases found
        exact ⟨.number content, .number (Number.readsBack_of_same readAgain same)⟩
      · rw [flawed] at found
        cases found
  | @array _ items each induction =>
      rw [Source.reread, value] at found
      obtain ⟨inner, entered, found⟩ := bind_eq_ok found
      obtain ⟨contents, contained, finished⟩ := bind_eq_ok found
      cases finished
      cases levels with
      | zero => cases entered
      | succ levels =>
          cases entered
          have each : ∀ item ∈ items, item.OrderedWithin levels ∧ item.Legible := by
            intro item member
            obtain ⟨content, itemFound, itemSame⟩ :=
              valueItems_reread contained same item member
            exact induction item member itemFound itemSame
          exact ⟨.array fun item member => (each item member).1,
            .array fun item member => (each item member).2⟩
  | @object _ members ordered each induction =>
      rw [Source.reread, value] at found
      obtain ⟨inner, entered, found⟩ := bind_eq_ok found
      obtain ⟨contents, contained, finished⟩ := bind_eq_ok found
      cases finished
      cases levels with
      | zero => cases entered
      | succ levels =>
          cases entered
          have names := map_valueMembers_reread contained
          have orderedContents : contents.Pairwise fun earlier later =>
              earlier.1 < later.1 := by
            rw [← List.pairwise_map (f := fun member : String × Value => member.1)
              (R := fun earlier later => earlier < later), names, List.pairwise_map]
            exact ordered
          rw [Value.ofMembers_of_ordered orderedContents] at same
          have each : ∀ member ∈ members,
              member.2.OrderedWithin levels ∧ member.2.Legible := by
            intro item member
            obtain ⟨content, itemFound, itemSame⟩ :=
              valueMembers_reread contained same item member
            exact induction item member itemFound itemSame
          exact ⟨.object ordered fun item member => (each item member).1,
            .object fun item member => (each item member).2⟩

end Decoder

end Json

end Assay
