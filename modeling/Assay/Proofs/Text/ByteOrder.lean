import Mathlib.Tactic.SplitIfs

/-!
# The order of texts is the order of their bytes

Texts are compared by code points.  In UTF-8 a greater code point begins with
a greater byte, or has a greater byte after the same first ones, so comparing
the bytes of two texts gives the same answer.
-/

namespace Assay.Text

/-- The bytes of a text in UTF-8. -/
def bytes (text : String) : List UInt8 := text.toByteArray.data.toList

theorem bytes_eq_flatMap (text : String) :
    bytes text = text.toList.flatMap String.utf8EncodeChar := by
  have encoded : text.toByteArray = text.toList.utf8Encode := by simp
  simp [bytes, encoded, List.utf8Encode]

theorem bytes_injective : Function.Injective bytes := by
  intro left right same
  exact String.toByteArray_inj.mp (ByteArray.ext (Array.toList_inj.mp same))

/-- Whatever follows them, two different code points are told apart within
their own bytes. -/
private theorem encodeChar_append_lt
    {left right : Char} (below : left.val.toNat < right.val.toNat)
    (leftRest rightRest : List UInt8) :
    String.utf8EncodeChar left ++ leftRest <
      String.utf8EncodeChar right ++ rightRest := by
  have valid : right.val.toNat < 0xd800 ∨
      (0xdfff < right.val.toNat ∧ right.val.toNat < 0x110000) := right.valid
  have second (code : Nat) : code / 4096 = code / 64 / 64 := by omega
  have third (code : Nat) : code / 262144 = code / 64 / 64 / 64 := by omega
  -- One case for every pair of lengths; in each the bytes are digits to base 64.
  simp only [String.utf8EncodeChar, second, third]
  split_ifs <;>
    simp only [List.cons_append, List.nil_append, List.cons_lt_cons_iff,
      UInt8.lt_iff_toNat_lt, ← UInt8.toNat_inj, UInt8.toNat_ofNat']
  all_goals omega

private theorem encode_lt
    {left right : List Char} (below : left < right) :
    left.flatMap String.utf8EncodeChar <
      right.flatMap String.utf8EncodeChar := by
  induction left generalizing right with
  | nil =>
      cases right with
      | nil => exact absurd below (List.lt_irrefl [])
      | cons first rest =>
          have nonempty :
              (first :: rest).flatMap String.utf8EncodeChar ≠ [] := by
            simp [String.utf8EncodeChar_ne_nil]
          cases encoded : (first :: rest).flatMap String.utf8EncodeChar with
          | nil => exact absurd encoded nonempty
          | cons byte others => exact List.nil_lt_cons byte others
  | cons leftFirst leftRest induction =>
      cases right with
      | nil => exact absurd below (List.not_lt_nil _)
      | cons rightFirst rightRest =>
          rw [List.flatMap_cons, List.flatMap_cons]
          rcases List.cons_lt_cons_iff.mp below with first | ⟨same, rest⟩
          · exact encodeChar_append_lt first _ _
          · rw [same]
            exact List.append_left_lt (induction rest)

theorem lt_iff_bytes_lt (left right : String) :
    left < right ↔ bytes left < bytes right := by
  rw [bytes_eq_flatMap, bytes_eq_flatMap]
  constructor
  · exact encode_lt
  · intro below
    rcases Std.lt_trichotomy left right with first | same | last
    · exact first
    · rw [same] at below
      exact absurd below (List.lt_irrefl _)
    · exact absurd (encode_lt last) (List.lt_asymm below)

end Assay.Text
