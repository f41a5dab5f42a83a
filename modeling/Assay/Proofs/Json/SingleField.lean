import Assay.Proofs.Json.Structures

/-!
# Structures of a single field

A structure with one field, which it cannot do without, is read from an object that has one
member of the field's name among others that can be skipped, or from an array of one item.
Nothing else is read as such a structure.
-/

namespace Assay.Json

/-- Nothing but blanks follows the value of a text, and of its tree something holds. -/
def TextHolds (Holds : Source → Prop) (text : String) : Prop :=
  ∃ source rest, Source.read text.toList = (source, .ok rest) ∧ skipSpace rest = [] ∧ Holds source

theorem Decoder.readText_eq_ok_iff
    {α : Type} {decode : Decoder α} {text : String} {content : α} :
    decode.readText text = .ok content ↔
      TextHolds (fun source => decode (.text textLevels) source = .ok content) text := by
  rcases tree : Source.read text.toList with ⟨source, rest⟩
  rw [readText, TextHolds, tree]
  constructor
  · intro read
    obtain ⟨taken, decoded, ending⟩ := bind_eq_ok read
    split at ending
    · rename_i rest
      split at ending
      · rename_i blank
        obtain rfl := Except.ok.inj ending
        exact ⟨source, rest, rfl, List.isEmpty_iff.mp blank, decoded⟩
      · cases ending
    · cases ending
  · rintro ⟨_, rest, ⟨⟩, blank, decoded⟩
    simp only [decoded, blank]
    rfl

theorem Decoder.natural32_eq_ok_iff {medium : Medium} {source : Source} {number : UInt32} :
    natural32 medium source = .ok number ↔ source = .number (.ofUInt32 number) := by
  refine ⟨fun read => ?_, fun same => same ▸ natural32_ofUInt32 number medium⟩
  rw [natural32.eq_def] at read
  split at read
  · rename_i value fits
    split at read
    · rename_i bounds
      obtain rfl := Except.ok.inj read
      have small : value.toNat < UInt32.size := by omega
      have back : ((UInt32.ofNat value.toNat).toNat : Int) = value := by
        rw [UInt32.toNat_ofNat_of_lt' small, Int.toNat_of_nonneg bounds.1]
      simp only [Number.ofUInt32, back]
    · cases read
  · cases read

@[simp] theorem checkEnding_eq_ok_iff {ending : Option Fault} :
    checkEnding ending = .ok () ↔ ending = none := by
  cases ending with
  | none => exact iff_of_true rfl rfl
  | some fault => exact iff_of_false nofun nofun

/-- Members that other names have, and that can be skipped. -/
def AreSkippable (name : String) (members : List (Key × Source)) : Prop :=
  ∀ member ∈ members, (∃ other, member.1 = .ok other ∧ other ≠ name) ∧ member.2.skipFault = none

@[simp] theorem areSkippable_cons {name : String} {key : Key} {source : Source}
    {members : List (Key × Source)} :
    AreSkippable name ((key, source) :: members) ↔
      ((∃ other, key = .ok other ∧ other ≠ name) ∧ source.skipFault = none) ∧
        AreSkippable name members :=
  List.forall_mem_cons

/-- A source with one part for a name, of which something holds. -/
inductive GivesAlone (name : String) (Holds : Source → Prop) : Source → Prop where
  | object {before after : List (Key × Source)} {part : Source}
      (ahead : AreSkippable name before) (behind : AreSkippable name after)
      (holds : Holds part) :
      GivesAlone name Holds (.object (before ++ (.ok name, part) :: after) none)
  | array {part : Source} (holds : Holds part) : GivesAlone name Holds (.array [part] none)

namespace Shape

/-- A structure with one field, which it keeps at one place of the draft. -/
structure KeepsOnly {Draft α : Type} (shape : Shape Draft α) (name : String) (decode : Decoder α)
    (get : Draft → Option α) (put : α → Draft → Draft) : Prop where
  fields : shape.fields = [.keep name true decode get put]
  kept : ∀ content draft, get (put content draft) = some content
  blank : get shape.blank = none
  finish : ∀ draft, shape.finish draft = needed name (get draft)

namespace KeepsOnly

variable {Draft α : Type} {shape : Shape Draft α} {name : String} {decode : Decoder α}
  {get : Draft → Option α} {put : α → Draft → Draft} {medium : Medium} {source : Source}
  {key : Key} {members : List (Key × Source)} {draft final : Draft} {content : α}

theorem name_eq
    (keeps : shape.KeepsOnly name decode get put) {field : Field Draft}
    (member : field ∈ shape.fields) :
    field = .keep name true decode get put ∧ field.name = name := by
  rw [keeps.fields, List.mem_singleton] at member
  exact ⟨member, member ▸ rfl⟩

/-- A member is the first one of the field's name, or it is skipped. -/
theorem readMembers_cons_iff (keeps : shape.KeepsOnly name decode get put) :
    shape.readMembers medium ((key, source) :: members) draft = .ok final ↔
      (key = .ok name ∧ get draft = none ∧ ∃ content, decode medium source = .ok content ∧
          shape.readMembers medium members (put content draft) = .ok final) ∨
        ((∃ other, key = .ok other ∧ other ≠ name) ∧ source.skipFault = none ∧
          shape.readMembers medium members draft = .ok final) := by
  constructor
  · intro read
    obtain ⟨found, rfl, ⟨field, known, named, unfilled, next, fills, rest⟩ |
      ⟨unknown, skipped, rest⟩⟩ := readMembers_cons_eq_ok read
    · obtain ⟨rfl, own⟩ := keeps.name_eq known
      obtain ⟨content, decoded, rfl⟩ := Field.keep_fill_eq_ok fills
      exact .inl ⟨congrArg Except.ok (named.symm.trans own),
        Option.isNone_iff_eq_none.mp (Option.isSome_eq_false_iff.mp unfilled), content, decoded,
        rest⟩
    · refine .inr ⟨⟨found, rfl, ?_⟩, checkEnding_eq_ok_iff.mp skipped, rest⟩
      rintro rfl
      have known : Field.keep found true decode get put ∈ shape.fields := by
        rw [keeps.fields]
        exact List.mem_singleton_self _
      exact unknown _ known rfl
  · rintro (⟨rfl, unfilled, content, decoded, rest⟩ | ⟨⟨other, rfl, different⟩, skipped, rest⟩)
    · have found : shape.fields.find? (·.name == name) =
          some (.keep name true decode get put) := by
        rw [keeps.fields]
        exact List.find?_cons_of_pos (beq_self_eq_true name)
      have vacant : (get draft).isSome = false := by rw [unfilled, Option.isSome_none]
      rw [readMembers_fill found vacant (Field.keep_fill decoded draft)]
      exact rest
    · rw [readMembers_skip _ (checkEnding_eq_ok_iff.mpr skipped)]
      · exact rest
      · intro field member
        rw [(keeps.name_eq member).2]
        exact Ne.symm different

theorem readMembers_of_filled
    (keeps : shape.KeepsOnly name decode get put) (filled : get draft ≠ none) :
    shape.readMembers medium members draft = .ok final ↔
      AreSkippable name members ∧ draft = final := by
  induction members with
  | nil =>
      rw [readMembers, Except.ok.injEq]
      exact (and_iff_right (List.forall_mem_nil _)).symm
  | cons member members induction =>
      rw [keeps.readMembers_cons_iff, induction, areSkippable_cons, and_assoc, and_assoc]
      constructor
      · rintro (⟨_, unfilled, _⟩ | skipped)
        · exact absurd unfilled filled
        · exact skipped
      · exact .inr

theorem readMembers_of_unfilled
    (keeps : shape.KeepsOnly name decode get put) (unfilled : get draft = none) :
    (∃ final, shape.readMembers medium members draft = .ok final ∧ get final = some content) ↔
      ∃ before part after, members = before ++ (.ok name, part) :: after ∧
        AreSkippable name before ∧ AreSkippable name after ∧
          decode medium part = .ok content := by
  induction members with
  | nil =>
      refine iff_of_false ?_ ?_
      · rintro ⟨final, read, filled⟩
        rw [← Except.ok.inj read, unfilled] at filled
        cases filled
      · rintro ⟨before, part, after, split, _⟩
        exact List.append_ne_nil_of_right_ne_nil before (List.cons_ne_nil _ after) split.symm
  | cons member members induction =>
      obtain ⟨key, source⟩ := member
      constructor
      · rintro ⟨final, read, filled⟩
        rcases keeps.readMembers_cons_iff.mp read with
          ⟨rfl, _, own, decoded, rest⟩ | ⟨other, skipped, rest⟩
        · have full : get (put own draft) ≠ none := by
            rw [keeps.kept]
            exact Option.some_ne_none own
          obtain ⟨behind, rfl⟩ := (keeps.readMembers_of_filled full).mp rest
          obtain rfl := Option.some.inj ((keeps.kept own draft).symm.trans filled)
          exact ⟨[], source, members, rfl, List.forall_mem_nil _, behind, decoded⟩
        · obtain ⟨before, part, after, rfl, ahead, behind, decoded⟩ :=
            induction.mp ⟨final, rest, filled⟩
          exact ⟨(key, source) :: before, part, after, rfl,
            areSkippable_cons.mpr ⟨⟨other, skipped⟩, ahead⟩, behind, decoded⟩
      · rintro ⟨before, part, after, split, ahead, behind, decoded⟩
        cases before with
        | nil =>
            obtain ⟨⟨rfl, rfl⟩, rfl⟩ := List.cons.inj split
            have full : get (put content draft) ≠ none := by
              rw [keeps.kept]
              exact Option.some_ne_none content
            refine ⟨put content draft, keeps.readMembers_cons_iff.mpr (.inl ?_),
              keeps.kept content draft⟩
            exact ⟨rfl, unfilled, content, decoded,
              (keeps.readMembers_of_filled full).mpr ⟨behind, rfl⟩⟩
        | cons first before =>
            obtain ⟨rfl, rfl⟩ := List.cons.inj split
            obtain ⟨⟨other, skipped⟩, ahead⟩ := areSkippable_cons.mp ahead
            obtain ⟨final, rest, filled⟩ :=
              induction.mpr ⟨before, part, after, rfl, ahead, behind, decoded⟩
            exact ⟨final, keeps.readMembers_cons_iff.mpr (.inr ⟨other, skipped, rest⟩), filled⟩

theorem readItems_eq_ok
    (keeps : shape.KeepsOnly name decode get put) {ending : Option Fault}
    {sources left : List Source}
    (read : shape.readItems medium ending shape.fields sources shape.blank = .ok (final, left))
    (filled : get final = some content) :
    ∃ part, sources = part :: left ∧ decode medium part = .ok content := by
  rw [keeps.fields] at read
  cases sources with
  | nil =>
      have same := readItems_nil_eq_ok read
      rw [Shape.readItems] at same
      obtain ⟨rfl, -⟩ := Prod.mk.inj (Except.ok.inj same)
      rw [keeps.blank] at filled
      cases filled
  | cons part sources =>
      obtain ⟨next, fills, rest⟩ := readItems_cons_eq_ok read
      rw [Shape.readItems] at rest
      obtain ⟨rfl, rfl⟩ := Prod.mk.inj (Except.ok.inj rest)
      obtain ⟨taken, decoded, rfl⟩ := Field.keep_fill_eq_ok fills
      rw [keeps.kept, Option.some.injEq] at filled
      exact ⟨part, rfl, filled ▸ decoded⟩

theorem decode_eq_ok_iff (keeps : shape.KeepsOnly name decode get put) {levels : Nat} :
    shape.decode (.text (levels + 1)) source = .ok content ↔
      GivesAlone name (fun part => decode (.text levels) part = .ok content) source := by
  constructor
  · intro read
    rw [Shape.decode.eq_def] at read
    split at read
    · obtain ⟨inner, entered, within⟩ := bind_eq_ok read
      obtain rfl := Except.ok.inj entered
      obtain ⟨draft, filled, ending⟩ := bind_eq_ok within
      obtain ⟨⟨⟩, ended, finished⟩ := bind_eq_ok ending
      rw [keeps.finish] at finished
      obtain ⟨before, part, after, rfl, ahead, behind, decoded⟩ :=
        (keeps.readMembers_of_unfilled keeps.blank).mp ⟨draft, filled, needed_eq_ok finished⟩
      obtain rfl := checkEnding_eq_ok_iff.mp ended
      exact .object ahead behind decoded
    · obtain ⟨inner, entered, within⟩ := bind_eq_ok read
      obtain rfl := Except.ok.inj entered
      obtain ⟨⟨draft, left⟩, filled, finishing⟩ := bind_eq_ok within
      obtain ⟨finished, done, ending⟩ := bind_eq_ok finishing
      rw [keeps.finish] at done
      obtain ⟨part, rfl, decoded⟩ := keeps.readItems_eq_ok filled (needed_eq_ok done)
      split at ending
      · cases ending
      · rename_i nothingLeft
        obtain ⟨⟨⟩, ended, same⟩ := bind_eq_ok ending
        obtain rfl := checkEnding_eq_ok_iff.mp ended
        obtain rfl := Except.ok.inj same
        obtain rfl : left = [] := by simpa using nothingLeft
        exact .array decoded
    · cases read
  · intro gives
    cases gives with
    | object ahead behind decoded =>
        obtain ⟨final, read, filled⟩ := (keeps.readMembers_of_unfilled keeps.blank).mpr
          ⟨_, _, _, rfl, ahead, behind, decoded⟩
        rw [decode_object read, keeps.finish, filled]
        rfl
    | @array part decoded =>
        have read : shape.readItems (.text levels) none shape.fields [part] shape.blank =
            .ok (put content shape.blank, []) := by
          simp only [keeps.fields, Shape.readItems, Field.keep_fill decoded, bind, Except.bind]
        simp only [Shape.decode, Medium.enter, bind, Except.bind, read, keeps.finish, keeps.kept]
        rfl

end KeepsOnly

end Shape

end Assay.Json
