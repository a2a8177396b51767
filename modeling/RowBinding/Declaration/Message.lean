import RowBinding.Declaration.Field
import RowBinding.Text.Quoted

/-!
# Texts of faults

Every snippet of user text in a message is quoted, so a message stays on one line whatever the
statement holds.
-/
namespace RowBinding.Declaration
open Text

def Fault.message : Fault → String
  | .missingTokens statement => "Expected a type and a field name in " ++ quote statement
  | .invalidFieldName identifier statement =>
      "Invalid field name " ++ quote identifier ++ " in " ++ quote statement
  | .invalidTypeName typeName statement =>
      "Invalid type name " ++ quote typeName ++ " in " ++ quote statement
  | .duplicateField identifier statement =>
      "The field " ++ quote identifier ++ " is declared twice (second declaration: "
        ++ quote statement ++ ")"

end RowBinding.Declaration
