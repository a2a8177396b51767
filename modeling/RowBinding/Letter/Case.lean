import RowBinding.Letter.Context
import RowBinding.Letter.ToLower
import RowBinding.Letter.ToUpper

/-!
# Case of texts

Upper-casing a text maps each character by itself. Lower-casing looks at the text around a
capital sigma: at the end of a word it becomes the final form. A word ends there when, skipping
case-ignorable characters, a cased character stands before the sigma and none stands after it.
-/
namespace RowBinding.Letter

def capitalSigma : Char := Char.ofNat 0x3A3

def finalSigma : Char := Char.ofNat 0x3C2

def upperText (cs : List Char) : List Char := cs.flatMap toUpper

/-- Whether the first character that is not case-ignorable is cased. -/
def casedAhead (cs : List Char) : Bool :=
  match cs.dropWhile isCaseIgnorable with
  | [] => false
  | c :: _ => isCased c

/-- The lower-case form of `c` between the text `before`, given in reverse, and the text `after`. -/
def lowerAt (before : List Char) (c : Char) (after : List Char) : List Char :=
  if c = capitalSigma && casedAhead before && !casedAhead after then [finalSigma] else toLower c

/-- The rest of a text in lower case, when `before` has been read, given in reverse. -/
def lowerFrom (before : List Char) : List Char → List Char
  | [] => []
  | c :: cs => lowerAt before c cs ++ lowerFrom (c :: before) cs

def lowerText (cs : List Char) : List Char := lowerFrom [] cs

/-- A text with its first character in upper case and the others as they are. -/
def capitalizeChars : List Char → List Char
  | [] => []
  | c :: cs => toUpper c ++ cs

/-- A string with its first character in upper case and the others as they are. -/
def capitalize (s : String) : String := String.ofList (capitalizeChars s.toList)

end RowBinding.Letter
