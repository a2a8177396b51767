import RowBinding.Declaration.Field
import RowBinding.Declaration.Identifier
import RowBinding.Text.Blank

/-!
# Reading declaration blocks

A block is cut into statements at semicolons. A statement is read from its end: the last token
names the field, the one before it is the type, and at most four tokens before those are looked
at for the modifiers static and transient. Anything further left is ignored.

The first faulty statement decides the result; nothing after it is read.
-/
namespace RowBinding.Declaration
open Text

/-- The statements of a block: trimmed, without the blank ones. -/
def statements (text : List Char) : List (List Char) :=
  ((pieces (· == ';') text).map trimBlank).filter (!·.isEmpty)

/-- How many tokens before the type are looked at for modifiers. -/
def modifierWindow : Nat := 4

def parseStatement (statement : List Char) : Except Fault Field :=
  match (tokens statement).reverse with
  | name :: type :: before =>
    if !isIdentifierChars name then
      .error (.invalidFieldName (String.ofList name) (String.ofList statement))
    else if !isIdentifierChars type then
      .error (.invalidTypeName (String.ofList type) (String.ofList statement))
    else
      let modifiers := before.take modifierWindow
      .ok {
        identifier := String.ofList name
        declaredType := String.ofList type
        isStatic := modifiers.contains "static".toList
        isTransient := modifiers.contains "transient".toList }
  | _ => .error (.missingTokens (String.ofList statement))

/-- The fields of the statements in order, when the names in `seen` are taken. -/
def parseStatements (seen : List String) : List (List Char) → Except Fault (List Field)
  | [] => .ok []
  | s :: rest =>
    match parseStatement s with
    | .error e => .error e
    | .ok f =>
      if seen.contains f.identifier then
        .error (.duplicateField f.identifier (String.ofList s))
      else
        match parseStatements (f.identifier :: seen) rest with
        | .error e => .error e
        | .ok fs => .ok (f :: fs)

/-- All fields that a block declares, in order; no two have the same identifier. -/
def parse (text : String) : Except Fault (List Field) :=
  parseStatements [] (statements text.toList)

def parseRetained (text : String) : Except Fault (List Field) :=
  (parse text).map (·.filter Field.isRetained)

end RowBinding.Declaration
