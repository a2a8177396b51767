import RowBinding.Json.Numeral
import RowBinding.Text.Pieces
import RowBinding.Text.Quoted

/-!
# JSON values

The members of an object are kept in order, with repeated keys. `render` writes a value without
spaces.
-/
namespace RowBinding.Json
open Text

inductive Value where
  | null
  | bool (b : Bool)
  | number (n : Number)
  | string (s : String)
  | array (items : List Value)
  | object (members : List (String × Value))

/-- Texts in order, with a comma between neighbours. -/
def commaSeparated : List String → String
  | [] => ""
  | [t] => t
  | t :: u :: ts => t ++ "," ++ commaSeparated (u :: ts)

mutual

def Value.render : Value → String
  | .null => "null"
  | .bool true => "true"
  | .bool false => "false"
  | .number n => n.text
  | .string s => quote s
  | .array items => "[" ++ commaSeparated (renderItems items) ++ "]"
  | .object members => "\x7b" ++ commaSeparated (renderMembers members) ++ "\x7d"

def renderItems : List Value → List String
  | [] => []
  | v :: vs => v.render :: renderItems vs

def renderMembers : List (String × Value) → List String
  | [] => []
  | (k, v) :: ms => (quote k ++ ":" ++ v.render) :: renderMembers ms

end

end RowBinding.Json
