import Assay.Json.Decoder
import Assay.Proofs.Json.Reading

/-!
# Taking a written value out of its tree

A free-form value is taken out of its own tree if it is nested no deeper than
the text may be.  A structure is taken out of the tree of its fields one field
after the other.
-/

namespace Assay.Json

/-- A value as it is kept in memory, nested no deeper than so many levels: the
members of its objects come in ascending order of their names. -/
inductive Value.OrderedWithin : Nat → Value → Prop where
  | null {levels : Nat} : OrderedWithin levels .null
  | bool {levels : Nat} (content : Bool) : OrderedWithin levels (.bool content)
  | number {levels : Nat} (content : Number) : OrderedWithin levels (.number content)
  | string {levels : Nat} (text : String) : OrderedWithin levels (.string text)
  | array {levels : Nat} {items : List Value}
      (each : ∀ item ∈ items, OrderedWithin levels item) :
      OrderedWithin (levels + 1) (.array items)
  | object {levels : Nat} {members : List (String × Value)}
      (ordered : members.Pairwise fun earlier later => earlier.1 < later.1)
      (each : ∀ member ∈ members, OrderedWithin levels member.2) :
      OrderedWithin (levels + 1) (.object members)

/-- A value that fits some levels fits more of them. -/
theorem Value.OrderedWithin.mono
    {fewer levels : Nat} {value : Value} (within : value.OrderedWithin fewer)
    (few : fewer ≤ levels) : value.OrderedWithin levels := by
  induction within generalizing levels with
  | null => exact .null
  | bool content => exact .bool content
  | number content => exact .number content
  | string text => exact .string text
  | array _ each =>
      obtain ⟨inner, rfl⟩ := Nat.exists_eq_succ_of_ne_zero (Nat.ne_zero_of_lt few)
      exact .array fun item member => each item member (Nat.le_of_succ_le_succ few)
  | object ordered _ each =>
      obtain ⟨inner, rfl⟩ := Nat.exists_eq_succ_of_ne_zero (Nat.ne_zero_of_lt few)
      exact .object ordered fun entry member => each entry member (Nat.le_of_succ_le_succ few)

/-! ## Objects in order -/

theorem Value.insertMember_of_above
    {name : String} {value : Value} {members : List (String × Value)}
    (above : ∀ member ∈ members, member.1 < name) :
    insertMember name value members = members ++ [(name, value)] := by
  induction members with
  | nil => rfl
  | cons first members induction =>
      obtain ⟨firstBelow, restBelow⟩ := List.forall_mem_cons.mp above
      have notBelow : ¬name < first.1 := fun below =>
        String.lt_irrefl name (String.lt_trans below firstBelow)
      have different : name ≠ first.1 := fun same =>
        String.lt_irrefl name (same ▸ firstBelow)
      rw [insertMember, if_neg notBelow, if_neg different, induction restBelow,
        List.cons_append]

private theorem foldl_insertMember
    {members sorted : List (String × Value)}
    (ordered : (sorted ++ members).Pairwise fun earlier later =>
      earlier.1 < later.1) :
    members.foldl (fun sorted member => Value.insertMember member.1 member.2 sorted)
      sorted = sorted ++ members := by
  induction members generalizing sorted with
  | nil => rw [List.foldl_nil, List.append_nil]
  | cons first members induction =>
      have above : ∀ member ∈ sorted, member.1 < first.1 := fun member inSorted =>
        (List.pairwise_append.mp ordered).2.2 member inSorted first
          List.mem_cons_self
      have regrouped : sorted ++ first :: members = (sorted ++ [first]) ++ members := by
        simp
      rw [List.foldl_cons, Value.insertMember_of_above above, regrouped]
      exact induction (regrouped ▸ ordered)

theorem Value.ofMembers_of_ordered
    {members : List (String × Value)}
    (ordered : members.Pairwise fun earlier later => earlier.1 < later.1) :
    Value.ofMembers members = .object members := by
  rw [ofMembers, foldl_insertMember (by simpa using ordered), List.nil_append]

/-! ## Free-form values and lists -/

@[simp] private theorem ok_bind
    {ε α β : Type} (content : α) (next : α → Except ε β) :
    (Except.ok content >>= next) = next content := rfl

/-- Two steps succeed if the first one does and the second one does on what the
first one found. -/
theorem bind_eq_ok
    {ε α β : Type} {first : Except ε α} {next : α → Except ε β} {result : β}
    (succeeds : (first >>= next) = .ok result) :
    ∃ content, first = .ok content ∧ next content = .ok result := by
  cases first with
  | error error => cases succeeds
  | ok content => exact ⟨content, rfl, succeeds⟩

/-- Two steps fail with the error of the first one, or with that of the second one on what the
first one found. -/
theorem bind_eq_error
    {ε α β : Type} {first : Except ε α} {next : α → Except ε β} {error : ε}
    (fails : (first >>= next) = .error error) :
    first = .error error ∨ ∃ content, first = .ok content ∧ next content = .error error := by
  cases first with
  | error firstError => exact .inl (congrArg Except.error (Except.error.inj fails))
  | ok content => exact .inr ⟨content, rfl, fails⟩

namespace Decoder

@[simp] theorem enter_text (levels : Nat) :
    Medium.enter (.text (levels + 1)) = .ok (.text levels) := rfl

theorem checked_string
    {α ε : Type} {check : String → Except ε α} {reason : ε → String}
    {text : String} {content : α} (passes : check text = .ok content)
    (medium : Medium) :
    checked check reason medium (.string text) = .ok content := by
  rw [checked, string, ok_bind]
  simp only [passes]
  rfl

theorem checked_string_eq_ok
    {α ε : Type} {check : String → Except ε α} {reason : ε → String}
    {text : String} {content : α} {medium : Medium}
    (read : checked check reason medium (.string text) = .ok content) :
    check text = .ok content := by
  rw [checked, string, ok_bind] at read
  cases checked : check text with
  | error error =>
      simp only [checked] at read
      cases read
  | ok passed =>
      simp only [checked] at read
      cases read
      rfl

@[simp] theorem natural32_ofUInt32 (number : UInt32) (medium : Medium) :
    natural32 medium (.number (.ofUInt32 number)) = .ok number := by
  have fits : 0 ≤ (number.toNat : Int) ∧ (number.toNat : Int) < UInt32.size :=
    ⟨Int.natCast_nonneg _, Int.ofNat_lt.mpr number.toNat_lt⟩
  rw [Number.ofUInt32, natural32, if_pos fits, Int.toNat_natCast,
    UInt32.ofNat_toNat]

theorem valueItems_ofItems
    {medium : Medium} {items : List Value}
    (each : ∀ item ∈ items, value (.ofValue item) medium = .ok item) :
    valueItems (Source.ofItems items) medium = .ok items := by
  induction items with
  | nil => rfl
  | cons item items induction =>
      obtain ⟨first, rest⟩ := List.forall_mem_cons.mp each
      rw [Source.ofItems, valueItems, first, ok_bind, induction rest]
      rfl

theorem valueMembers_ofMembers
    {medium : Medium} {members : List (String × Value)}
    (each : ∀ member ∈ members, value (.ofValue member.2) medium = .ok member.2) :
    valueMembers (Source.ofMembers members) medium = .ok members := by
  induction members with
  | nil => rfl
  | cons member members induction =>
      obtain ⟨first, rest⟩ := List.forall_mem_cons.mp each
      rw [Source.ofMembers, valueMembers, readName, ok_bind, first, ok_bind,
        induction rest]
      rfl

theorem value_ofValue
    {levels : Nat} {content : Value} (within : content.OrderedWithin levels) :
    value (.ofValue content) (.text levels) = .ok content := by
  induction within with
  | null => rfl
  | bool content => rfl
  | number content => rfl
  | string text => rfl
  | array each induction =>
      rw [Source.ofValue, value, enter_text, ok_bind,
        valueItems_ofItems induction]
      rfl
  | object ordered each induction =>
      rw [Source.ofValue, value, enter_text, ok_bind,
        valueMembers_ofMembers induction, ok_bind, Value.ofMembers_of_ordered ordered]
      rfl

theorem items_map
    {α β : Type} {decode : Decoder β} {medium : Medium} {toJson : α → Value}
    {taken : α → β} {contents : List α}
    (each : ∀ content ∈ contents,
      decode medium (.ofValue (toJson content)) = .ok (taken content)) :
    items decode medium (Source.ofItems (contents.map toJson)) =
      .ok (contents.map taken) := by
  induction contents with
  | nil => rfl
  | cons content contents induction =>
      obtain ⟨first, rest⟩ := List.forall_mem_cons.mp each
      rw [List.map_cons, Source.ofItems, items, first, ok_bind, induction rest]
      rfl

/-- What is taken out of the array is what is taken out of its items, one after the
other. -/
theorem list_ofValue_map
    {α β : Type} {decode : Decoder β} {levels : Nat} {toJson : α → Value}
    {taken : α → β} {contents : List α}
    (each : ∀ content ∈ contents,
      decode (.text levels) (.ofValue (toJson content)) = .ok (taken content)) :
    list decode (.text (levels + 1)) (.ofValue (.array (contents.map toJson))) =
      .ok (contents.map taken) := by
  rw [Source.ofValue, list, enter_text, ok_bind, items_map each]
  rfl

/-- A list is taken out of the array of what its items are written as. -/
theorem list_ofValue
    {α : Type} {decode : Decoder α} {levels : Nat} {toJson : α → Value}
    {contents : List α}
    (each : ∀ content ∈ contents,
      decode (.text levels) (.ofValue (toJson content)) = .ok content) :
    list decode (.text (levels + 1)) (.ofValue (.array (contents.map toJson))) =
      .ok contents := by
  have taken := @list_ofValue_map α α decode levels toJson id contents each
  rwa [List.map_id] at taken

theorem list_array_eq_ok
    {α : Type} {decode : Decoder α} {levels : Nat} {sources : List Source}
    {contents : List α}
    (read : list decode (.text (levels + 1)) (.array sources none) = .ok contents) :
    items decode (.text levels) sources = .ok contents := by
  rw [list, enter_text, ok_bind] at read
  obtain ⟨found, read, finished⟩ := bind_eq_ok read
  cases finished
  exact read

end Decoder

/-! ## Structures -/

namespace Shape

variable {Draft α : Type} {shape : Shape Draft α}

/-- The next member fills the field of its name. -/
theorem readMembers_fill
    {medium : Medium} {name : String} {source : Source}
    {rest : List (Key × Source)} {draft filled : Draft} {field : Field Draft}
    (found : shape.fields.find? (·.name == name) = some field)
    (unfilled : field.isFilled draft = false)
    (fills : field.fill medium source draft = .ok filled) :
    shape.readMembers medium ((.ok name, source) :: rest) draft =
      shape.readMembers medium rest filled := by
  rw [readMembers, readName, ok_bind, found]
  simp only [unfilled, fills]
  rfl

/-- The next member is one of a kept field that is still to be filled. -/
theorem readMembers_keep_eq_ok
    {α : Type} {medium : Medium} {name : String} {source : Source}
    {rest : List (Key × Source)} {draft final : Draft} {required : Bool}
    {decode : Decoder α} {get : Draft → Option α} {put : α → Draft → Draft}
    (read : shape.readMembers medium ((.ok name, source) :: rest) draft = .ok final)
    (found : shape.fields.find? (·.name == name) =
      some (.keep name required decode get put))
    (unfilled : (get draft).isSome = false) :
    ∃ content, decode medium source = .ok content ∧
      shape.readMembers medium rest (put content draft) = .ok final := by
  rw [readMembers, readName, ok_bind, found] at read
  simp only [Field.keep, unfilled, Bool.false_eq_true, if_false] at read
  cases decoded : decode medium source with
  | error error =>
      rw [decoded] at read
      cases read
  | ok content =>
      rw [decoded] at read
      exact ⟨content, rfl, read⟩

theorem decode_object
    {levels : Nat} {members : List (Key × Source)} {draft : Draft}
    (read : shape.readMembers (.text levels) members shape.blank = .ok draft) :
    shape.decode (.text (levels + 1)) (.object members none) =
      shape.finish draft := by
  rw [decode, Decoder.enter_text, ok_bind, read]
  rfl

theorem decode_object_eq_ok
    {levels : Nat} {members : List (Key × Source)} {content : α}
    (read : shape.decode (.text (levels + 1)) (.object members none) = .ok content) :
    ∃ draft, shape.readMembers (.text levels) members shape.blank = .ok draft ∧
      shape.finish draft = .ok content := by
  rw [decode, Decoder.enter_text, ok_bind] at read
  obtain ⟨draft, filled, read⟩ := bind_eq_ok read
  exact ⟨draft, filled, read⟩

end Shape

/-- A field that is kept has what its decoder takes out. -/
theorem Field.keep_fill
    {Draft α : Type} {name : String} {required : Bool} {decode : Decoder α}
    {get : Draft → Option α} {put : α → Draft → Draft}
    {medium : Medium} {source : Source} {content : α}
    (decoded : decode medium source = .ok content) (draft : Draft) :
    (Field.keep name required decode get put).fill medium source draft =
      .ok (put content draft) := by
  simp only [Field.keep, decoded]
  rfl

/-- A member that is left out when there is nothing to write fills the field of its name if
it is there. -/
theorem Shape.readMembers_maybe
    {Draft α β : Type} {shape : Shape Draft α} {medium : Medium} {name : String}
    {written : Option Value} {rest : List (String × Value)} {content : β} {draft : Draft}
    {required : Bool} {decode : Decoder β} {get : Draft → Option β} {put : β → Draft → Draft}
    (found : shape.fields.find? (·.name == name) =
      some (.keep name required decode get put))
    (unfilled : (get draft).isSome = false)
    (decoded : ∀ value ∈ written, decode medium (.ofValue value) = .ok content)
    {filled : Draft} (fills : filled = if written.isSome then put content draft else draft) :
    shape.readMembers medium
        (Source.ofMembers ((written.map fun value => (name, value)).toList ++ rest)) draft =
      shape.readMembers medium (Source.ofMembers rest) filled := by
  rw [fills]
  cases written with
  | none => rfl
  | some value =>
      exact readMembers_fill found unfilled (Field.keep_fill (decoded value rfl) draft)

/-! ## Whole texts -/

/-- A decoder finds in the text of a value what it finds in its tree, with
whatever blanks. -/
theorem Decoder.readText_print
    {α : Type} (decode : Decoder α) {written : Value} {spacing : Spacing} {text : String}
    (printed : text.toList = spacing.print 0 written) :
    decode.readText text = decode (.text textLevels) (.reread written) := by
  rw [Decoder.readText, printed, Source.read_print spacing written]
  cases found : decode (.text textLevels) (.reread written) <;>
    simp only [found] <;> rfl

end Assay.Json
