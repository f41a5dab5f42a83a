/-!
# Blank characters

Whether a text is blank, and where its content begins and ends, is decided by
the characters that carry the Unicode property `White_Space`.  The no-break
spaces belong to it, the zero-width space does not.
-/

namespace Assay.Text

/-- The Unicode property `White_Space`. -/
def isBlank (character : Char) : Bool :=
  let code := character.toNat
  (0x09 ≤ code && code ≤ 0x0D) || code == 0x20 || code == 0x85 || code == 0xA0
    || code == 0x1680 || (0x2000 ≤ code && code ≤ 0x200A)
    || code == 0x2028 || code == 0x2029 || code == 0x202F || code == 0x205F
    || code == 0x3000

/-- Remove the blank characters at both ends. -/
def trimList (characters : List Char) : List Char :=
  ((characters.dropWhile isBlank).reverse.dropWhile isBlank).reverse

def trim (text : String) : String :=
  String.ofList (trimList text.toList)

/-- A text is blank when it holds blank characters only. -/
def isBlankText (text : String) : Bool :=
  text.toList.all isBlank

/-- The parts of a text between the occurrences of a separator. -/
def pieces (separator : Char) : List Char → List (List Char)
  | [] => [[]]
  | character :: rest =>
      match pieces separator rest with
      | [] => [[]]
      | piece :: later =>
          if character == separator then [] :: piece :: later
          else (character :: piece) :: later

theorem pieces_ne_nil (separator : Char) (characters : List Char) :
    pieces separator characters ≠ [] := by
  cases characters with
  | nil => simp [pieces]
  | cons character rest =>
      simp only [pieces]
      split
      · simp
      · split <;> simp

end Assay.Text
