import RowBinding.Config.Request
import RowBinding.Request.Generate

/-!
# From JSON to JSON

A request given as JSON is answered by an object whose one member is the generated code.
-/
namespace RowBinding
open Text

/-- The answer that holds generated code. -/
def responseText (code : String) : String :=
  "\x7b\n  \"code\": " ++ quote code ++ "\n\x7d"

def generateJson (text : String) : Except Failure String :=
  match Config.readRequest text with
  | .error e => .error (.config e)
  | .ok r => r.generate.map responseText

end RowBinding
