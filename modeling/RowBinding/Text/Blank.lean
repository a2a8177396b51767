import RowBinding.Text.Pieces

/-!
# Blank characters

A character is blank when it has the Unicode property White_Space. One class serves both
trimming and cutting into tokens, so the tokens of a trimmed text are never empty unless the text
is: they are its maximal runs of characters that are not blank.

U+001C to U+001F, U+180E, U+200B and U+FEFF are not blank.
-/
namespace RowBinding.Text

def isBlank (c : Char) : Bool :=
  let n := c.toNat
  (9 ≤ n && n ≤ 13) || n == 0x20 || n == 0x85 || n == 0xA0 || n == 0x1680 ||
  (0x2000 ≤ n && n ≤ 0x200A) || n == 0x2028 || n == 0x2029 || n == 0x202F ||
  n == 0x205F || n == 0x3000

/-- A text without the blanks at its ends. -/
def trimBlank (cs : List Char) : List Char :=
  ((cs.dropWhile isBlank).reverse.dropWhile isBlank).reverse

/-- The stretches of a text between its runs of blanks. -/
def tokens (cs : List Char) : List (List Char) := stretches isBlank cs

/-- A text of blanks alone, or of nothing. -/
def IsBlankText (s : String) : Prop := s.toList.all isBlank = true

instance (s : String) : Decidable (IsBlankText s) := inferInstanceAs (Decidable (_ = true))

end RowBinding.Text
