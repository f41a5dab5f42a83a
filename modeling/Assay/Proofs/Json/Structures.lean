import Assay.Proofs.Json.Decoded
import Mathlib.Data.List.Nodup

/-!
# What a structure takes for a field

A structure is read from an object, whose members come in any order among others that
are unknown, or from the array of its fields.  Either way each field has what its decoder
takes out of the part that is given for it, and is left out if no part is given.
-/

namespace Assay.Json

theorem needed_eq_ok
    {α : Type} {name : String} {given : Option α} {content : α}
    (found : needed name given = .ok content) : given = some content := by
  cases given with
  | none => contradiction
  | some known => rw [Except.ok.inj found]

/-- Filling the field leaves a place of the draft as it is. -/
def Field.Spares {Draft β : Type} (field : Field Draft) (get : Draft → β) : Prop :=
  ∀ medium source draft filled,
    field.fill medium source draft = .ok filled → get filled = get draft

section

variable {Draft β γ : Type} {name : String} {required : Bool} {decode : Decoder β}
  {get : Draft → Option β} {put : β → Draft → Draft}

theorem Field.keep_fill_eq_ok
    {medium : Medium} {source : Source} {draft filled : Draft}
    (fills : (Field.keep name required decode get put).fill medium source draft =
      .ok filled) :
    ∃ content, decode medium source = .ok content ∧ filled = put content draft := by
  simp only [Field.keep] at fills
  cases decoded : decode medium source with
  | error error =>
      rw [decoded] at fills
      contradiction
  | ok content =>
      rw [decoded] at fills
      exact ⟨content, rfl, (Except.ok.inj fills).symm⟩

@[simp] theorem Field.keep_name :
    (Field.keep name required decode get put).name = name :=
  rfl

/-- A kept field spares every other place of the draft. -/
@[simp] theorem Field.keep_spares
    {other : Draft → γ} (same : ∀ content draft, other (put content draft) = other draft) :
    (Field.keep name required decode get put).Spares other := by
  intro medium source draft filled fills
  obtain ⟨content, _, rfl⟩ := Field.keep_fill_eq_ok fills
  exact same content draft

end

namespace Shape

variable {Draft α β : Type} {shape : Shape Draft α} {medium : Medium} {source : Source}
  {name : String} {decode : Decoder β} {get : Draft → Option β}

/-- The part of a source that is given for a field: the member of its name, or the item
at its place among the fields. -/
def given? (shape : Shape Draft α) (name : String) : Source → Option Source
  | .object members _ => (members.find? (·.1.toOption == some name)).map (·.2)
  | .array sources _ => ((shape.fields.zip sources).find? (·.1.name == name)).map (·.2)
  | _ => none

/-- The draft is what the fields come to for a source. -/
inductive Fills (shape : Shape Draft α) (medium : Medium) : Source → Draft → Prop where
  | object {members : List (Key × Source)} {ending : Option Fault} {draft : Draft}
      (read : shape.readMembers medium members shape.blank = .ok draft) :
      Fills shape medium (.object members ending) draft
  | array {sources left : List Source} {ending : Option Fault} {draft : Draft}
      (read : shape.readItems medium ending shape.fields sources shape.blank =
        .ok (draft, left)) :
      Fills shape medium (.array sources ending) draft

theorem decode_eq_ok {content : α} (read : shape.decode medium source = .ok content) :
    ∃ inner draft, medium.enter = .ok inner ∧ shape.Fills inner source draft ∧
      shape.finish draft = .ok content := by
  rw [Shape.decode.eq_def] at read
  split at read
  · obtain ⟨inner, entered, within⟩ := bind_eq_ok read
    obtain ⟨draft, filled, ending⟩ := bind_eq_ok within
    obtain ⟨_, _, finished⟩ := bind_eq_ok ending
    exact ⟨inner, draft, entered, .object filled, finished⟩
  · obtain ⟨inner, entered, within⟩ := bind_eq_ok read
    obtain ⟨⟨draft, left⟩, filled, ending⟩ := bind_eq_ok within
    obtain ⟨finished, done, nothingLeft⟩ := bind_eq_ok ending
    refine ⟨inner, draft, entered, .array filled, ?_⟩
    rw [done]
    split at nothingLeft
    · split at nothingLeft <;> contradiction
    · obtain ⟨_, _, same⟩ := bind_eq_ok nothingLeft
      exact same
  · contradiction

/-- A member fills the field of its name, which no other member has filled, or is
skipped. -/
theorem readMembers_cons_eq_ok
    {key : Key} {members : List (Key × Source)} {draft final : Draft}
    (read : shape.readMembers medium ((key, source) :: members) draft = .ok final) :
    ∃ found, key = .ok found ∧
      ((∃ field ∈ shape.fields, field.name = found ∧ field.isFilled draft = false ∧
          ∃ filled, field.fill medium source draft = .ok filled ∧
            shape.readMembers medium members filled = .ok final) ∨
        (∀ field ∈ shape.fields, field.name ≠ found) ∧ checkSkipped source = .ok () ∧
          shape.readMembers medium members draft = .ok final) := by
  rw [readMembers] at read
  obtain ⟨found, named, step⟩ := bind_eq_ok read
  obtain rfl : key = .ok found := by
    cases key with
    | error fault => contradiction
    | ok known => exact congrArg Except.ok (Except.ok.inj named)
  refine ⟨found, rfl, ?_⟩
  split at step
  · rename_i field first
    left
    have member := List.mem_of_find?_eq_some first
    have same : field.name = found := by simpa using List.find?_some first
    cases unfilled : field.isFilled draft with
    | true =>
        rw [unfilled, if_pos rfl] at step
        contradiction
    | false =>
        rw [unfilled, if_neg Bool.false_ne_true] at step
        obtain ⟨filled, fills, rest⟩ := bind_eq_ok step
        exact ⟨field, member, same, unfilled, filled, fills, rest⟩
  · rename_i unknown
    right
    obtain ⟨⟨⟩, skipped, rest⟩ := bind_eq_ok step
    exact ⟨fun field member => by simpa using List.find?_eq_none.mp unknown field member,
      skipped, rest⟩

/-- A member that no field knows is skipped. -/
theorem readMembers_skip
    {members : List (Key × Source)} {draft : Draft}
    (unknown : ∀ field ∈ shape.fields, field.name ≠ name)
    (skipped : checkSkipped source = .ok ()) :
    shape.readMembers medium ((.ok name, source) :: members) draft =
      shape.readMembers medium members draft := by
  have absent : shape.fields.find? (·.name == name) = none := by
    rw [List.find?_eq_none]
    intro field member
    simpa using unknown field member
  simp only [readMembers, readName, bind, Except.bind, absent, skipped]

/-- A field for which no item is left stays unfilled. -/
theorem readItems_nil_eq_ok
    {ending : Option Fault} {field : Field Draft} {fields : List (Field Draft)}
    {draft : Draft} {result : Draft × List Source}
    (read : shape.readItems medium ending (field :: fields) [] draft = .ok result) :
    shape.readItems medium ending fields [] draft = .ok result := by
  rw [readItems] at read
  obtain ⟨_, _, step⟩ := bind_eq_ok read
  split at step
  · contradiction
  · exact step

theorem readItems_cons_eq_ok
    {ending : Option Fault} {field : Field Draft} {fields : List (Field Draft)}
    {sources : List Source} {draft : Draft} {result : Draft × List Source}
    (read : shape.readItems medium ending (field :: fields) (source :: sources) draft =
      .ok result) :
    ∃ filled, field.fill medium source draft = .ok filled ∧
      shape.readItems medium ending fields sources filled = .ok result := by
  rw [readItems] at read
  exact bind_eq_ok read

theorem readItems_of_spares
    {ending : Option Fault} {fields : List (Field Draft)} {sources left : List Source}
    {draft final : Draft}
    (read : shape.readItems medium ending fields sources draft = .ok (final, left))
    (spares : ∀ field ∈ fields, field.Spares get) : get final = get draft := by
  induction fields generalizing sources draft with
  | nil =>
      rw [readItems] at read
      cases read
      rfl
  | cons field fields induction =>
      obtain ⟨own, others⟩ := List.forall_mem_cons.mp spares
      cases sources with
      | nil => exact induction (readItems_nil_eq_ok read) others
      | cons source sources =>
          obtain ⟨filled, fills, rest⟩ := readItems_cons_eq_ok read
          exact (induction rest others).trans (own _ _ _ _ fills)

/-- The structure keeps a field of a name at one place of the draft. -/
structure Keeps (shape : Shape Draft α) (name : String) (decode : Decoder β)
    (get : Draft → Option β) : Prop where
  kept : ∃ required put,
    shape.fields.find? (·.name == name) = some (.keep name required decode get put) ∧
      ∀ content draft, get (put content draft) = some content
  others : ∀ field ∈ shape.fields, field.name ≠ name → field.Spares get
  once : (shape.fields.map (·.name)).Nodup
  blank : get shape.blank = none

/-- What a field has after some part was given for it, or none. -/
def TakenFrom (medium : Medium) (decode : Decoder β) : Option Source → Option β → Prop :=
  Option.Rel fun part content => decode medium part = .ok content

theorem TakenFrom.of_decoded {content : β} (decoded : decode medium source = .ok content) :
    TakenFrom medium decode (some source) (some content) :=
  .some decoded

theorem TakenFrom.of_none {given : Option Source}
    (taken : TakenFrom medium decode given none) : given = none := by
  cases taken
  rfl

theorem TakenFrom.of_some {given : Option Source} {content : β}
    (taken : TakenFrom medium decode given (some content)) :
    ∃ part, given = some part ∧ decode medium part = .ok content := by
  cases taken with
  | some decoded => exact ⟨_, rfl, decoded⟩

namespace Keeps

/-- The field of the name is filled with what is taken out of its part. -/
theorem fill_own
    (keeps : shape.Keeps name decode get) {field : Field Draft} {draft filled : Draft}
    (member : field ∈ shape.fields) (same : field.name = name)
    (fills : field.fill medium source draft = .ok filled) :
    field.isFilled draft = (get draft).isSome ∧
      ∃ content, decode medium source = .ok content ∧ get filled = some content := by
  obtain ⟨required, put, kept, own⟩ := keeps.kept
  obtain rfl : field = .keep name required decode get put :=
    List.inj_on_of_nodup_map keeps.once member (List.mem_of_find?_eq_some kept) same
  obtain ⟨content, decoded, rfl⟩ := Field.keep_fill_eq_ok fills
  exact ⟨rfl, content, decoded, own content draft⟩

/-- A field that is filled stays as it is: a second member of its name is refused. -/
theorem readMembers_of_filled
    (keeps : shape.Keeps name decode get) {members : List (Key × Source)}
    {draft final : Draft} (read : shape.readMembers medium members draft = .ok final)
    (filled : (get draft).isSome) : get final = get draft := by
  induction members generalizing draft with
  | nil => rw [Except.ok.inj read]
  | cons member members induction =>
      obtain ⟨found, _, ⟨field, known, named, unfilled, next, fills, rest⟩ | ⟨_, _, rest⟩⟩ :=
        readMembers_cons_eq_ok read
      · by_cases same : field.name = name
        · rw [(keeps.fill_own known same fills).1, filled] at unfilled
          contradiction
        · have spared := keeps.others field known same _ _ _ _ fills
          rw [← spared] at filled ⊢
          exact induction rest filled
      · exact induction rest filled

theorem readMembers
    (keeps : shape.Keeps name decode get) {members : List (Key × Source)}
    {draft final : Draft} (read : shape.readMembers medium members draft = .ok final)
    (unfilled : get draft = none) :
    TakenFrom medium decode ((members.find? (·.1.toOption == some name)).map (·.2))
      (get final) := by
  induction members generalizing draft with
  | nil =>
      rw [← Except.ok.inj read, unfilled]
      exact .none
  | cons member members induction =>
      obtain ⟨key, source⟩ := member
      obtain ⟨found, rfl, ⟨field, known, named, _, next, fills, rest⟩ | ⟨unknown, _, rest⟩⟩ :=
        readMembers_cons_eq_ok read
      · by_cases same : field.name = name
        · obtain ⟨_, content, decoded, own⟩ := keeps.fill_own known same fills
          rw [keeps.readMembers_of_filled rest (own ▸ rfl), own]
          simpa [Except.toOption, named ▸ same] using TakenFrom.of_decoded decoded
        · have spared := keeps.others field known same _ _ _ _ fills
          simpa [Except.toOption, named ▸ same] using induction rest (spared.trans unfilled)
      · obtain ⟨required, put, kept, _⟩ := keeps.kept
        have different : found ≠ name := fun same =>
          unknown _ (List.mem_of_find?_eq_some kept) same.symm
        simpa [Except.toOption, different] using induction rest unfilled

/-- An item fills the field at its place, and the fields after it spare that one. -/
theorem readItems
    (keeps : shape.Keeps name decode get) {ending : Option Fault}
    {fields : List (Field Draft)} {sources left : List Source} {draft final : Draft}
    (read : shape.readItems medium ending fields sources draft = .ok (final, left))
    (known : ∀ field ∈ fields, field ∈ shape.fields) (once : (fields.map (·.name)).Nodup)
    (unfilled : get draft = none) :
    TakenFrom medium decode (((fields.zip sources).find? (·.1.name == name)).map (·.2))
      (get final) := by
  induction fields generalizing sources draft with
  | nil =>
      have spared : get final = get draft :=
        readItems_of_spares read (List.forall_mem_nil _)
      rw [spared, unfilled]
      exact .none
  | cons field fields induction =>
      obtain ⟨member, others⟩ := List.forall_mem_cons.mp known
      obtain ⟨absent, later⟩ := List.nodup_cons.mp once
      cases sources with
      | nil => simpa using induction (readItems_nil_eq_ok read) others later unfilled
      | cons source sources =>
          obtain ⟨filled, fills, rest⟩ := readItems_cons_eq_ok read
          by_cases same : field.name = name
          · have spares : ∀ other ∈ fields, other.Spares get := by
              intro other present
              apply keeps.others other (others other present)
              intro again
              exact absent (List.mem_map.mpr ⟨other, present, again.trans same.symm⟩)
            obtain ⟨_, content, decoded, own⟩ := keeps.fill_own member same fills
            rw [readItems_of_spares rest spares, own]
            simpa [same] using TakenFrom.of_decoded decoded
          · have spared := keeps.others field member same _ _ _ _ fills
            simpa [same] using induction rest others later (spared.trans unfilled)

end Keeps

/-- Whatever a structure is read from, a kept field has what is taken out of the part that
is given for it. -/
theorem Fills.kept
    {draft : Draft} (fills : shape.Fills medium source draft)
    (keeps : shape.Keeps name decode get) :
    TakenFrom medium decode (shape.given? name source) (get draft) := by
  cases fills with
  | object read => exact keeps.readMembers read keeps.blank
  | array read =>
      exact keeps.readItems read (fun _ member => member) keeps.once keeps.blank

end Shape

end Assay.Json
