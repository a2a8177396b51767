/-!
# Identifiers

An identifier is an ASCII letter or underscore followed by ASCII letters, digits and
underscores. Letters beyond ASCII are refused although Java would take them.
-/
namespace RowBinding.Declaration

/-- A character that may start an identifier: an ASCII letter or an underscore. -/
def isIdentifierStart (c : Char) : Bool := c.isAlpha || c == '_'

/-- A character that may continue an identifier: an ASCII letter, digit or underscore. -/
def isIdentifierPart (c : Char) : Bool := c.isAlphanum || c == '_'

/-- Whether all of `cs` is one identifier. -/
def isIdentifierChars : List Char → Bool
  | [] => false
  | c :: cs => isIdentifierStart c && cs.all isIdentifierPart

/-- Whether all of `s` is one identifier. -/
def isIdentifier (s : String) : Bool := isIdentifierChars s.toList

end RowBinding.Declaration
