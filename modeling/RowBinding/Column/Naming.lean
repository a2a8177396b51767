import RowBinding.Column.Words
import RowBinding.Letter.Case

/-!
# Column literals

A naming policy says how the column literal of a row accessor is derived from a field's
identifier. The literal is the quoted name; the case is applied to the whole literal.
-/
namespace RowBinding.Column
open Letter

inductive ColumnCase where
  | upper
  | lower
  | unchanged
deriving DecidableEq, Repr

namespace ColumnCase

def word : ColumnCase → String
  | upper => "upper"
  | lower => "lower"
  | unchanged => "unchanged"

def ofWord? (w : String) : Option ColumnCase := [upper, lower, unchanged].find? (·.word == w)

def apply : ColumnCase → List Char → List Char
  | upper => upperText
  | lower => lowerText
  | unchanged => id

end ColumnCase

structure NamingPolicy where
  generateNames : Bool := false
  useSeparator : Bool := false
  separator : String := "_"
  columnCase : ColumnCase := .unchanged
deriving DecidableEq, Repr

inductive PolicyPart where
  | generateNames (on : Bool)
  | useSeparator (on : Bool)
  | separator (text : String)
  | columnCase (choice : ColumnCase)
deriving DecidableEq, Repr

def NamingPolicy.set (p : NamingPolicy) : PolicyPart → NamingPolicy
  | .generateNames on => { p with generateNames := on }
  | .useSeparator on => { p with useSeparator := on }
  | .separator text => { p with separator := text }
  | .columnCase choice => { p with columnCase := choice }

def NamingPolicy.setAll (p : NamingPolicy) (parts : List PolicyPart) : NamingPolicy :=
  parts.foldl NamingPolicy.set p

/-- The name of the column for an identifier, before its case is applied. -/
def NamingPolicy.baseName (p : NamingPolicy) (identifier : List Char) : List Char :=
  if p.useSeparator then p.separator.toList.intercalate (words identifier) else identifier

/-- The column literal for an identifier, with its quotes. Without generated names it is empty
and left to be filled in by hand. -/
def NamingPolicy.columnLiteral (p : NamingPolicy) (identifier : String) : String :=
  if p.generateNames then
    String.ofList (p.columnCase.apply ('"' :: (p.baseName identifier.toList ++ ['"'])))
  else "\"\""

end RowBinding.Column
