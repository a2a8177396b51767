import RowBinding.Column.Naming
import RowBinding.Declaration.Field
import RowBinding.Reading.Rule

/-!
# Statements that read a row into an object

Each field gives a group of lines. A field of a known type gives one statement that calls the
object's setter. A field of an unknown type gives two comment lines, to be completed by hand,
or nothing when unknown types are not handled. The lines of a field depend on no other field.
-/
namespace RowBinding.Reading
open Column Declaration Letter

structure RowReader where
  reader : String
  object : String
  naming : NamingPolicy := {}
  table : TypeTable ReadRule := standardRules
  handleUnknown : Bool := true

def ReadRule.accessor (rule : ReadRule) (typeName column : String) : String :=
  match rule.accessorTemplate with
  | some template => template column
  | none => "get" ++ capitalize (rule.accessorSuffix.getD typeName) ++ "(" ++ column ++ ")"

/-- The expression whose value is given to the setter, from the accessor call on the row. -/
def ReadRule.convert (rule : ReadRule) (read : String) : String :=
  match rule.converter with
  | some convert => convert read
  | none => read

/-- The name of the object's setter for an identifier or for what replaces it. -/
def setterName (suffix : String) : String := "set" ++ capitalize suffix

namespace RowReader

def statement (r : RowReader) (f : Field) (typeName : String) (rule : ReadRule) : String :=
  let column := r.naming.columnLiteral f.identifier
  let read := r.reader ++ "." ++ rule.accessor typeName column
  r.object ++ "." ++ setterName (rule.setterSuffix.getD f.identifier) ++ "("
    ++ rule.convert read ++ ");"

/-- The two comment lines for a field whose type has none. -/
def placeholder (r : RowReader) (f : Field) (typeName : String) : List String :=
  ["//" ++ typeName ++ " " ++ f.identifier ++ ";",
   "//" ++ r.object ++ "." ++ setterName f.identifier ++ "(" ++ f.identifier ++ ");"]

def group (r : RowReader) (f : Field) : List String :=
  match r.table.resolve f.declaredType r.handleUnknown with
  | some (.known typeName rule) => [r.statement f typeName rule]
  | some (.unknown typeName) => r.placeholder f typeName
  | none => []

def lines (r : RowReader) (fields : List Field) : List String := fields.flatMap r.group

end RowReader

end RowBinding.Reading
