import RowBinding.Json.Value
import RowBinding.Text.Escaped

/-!
# Why a text cannot be read as a request or a policy

Either the text is not JSON, or it is JSON of the wrong shape. Every wrong shape has a sentence;
what is wrong with the grammar is not said.
-/
namespace RowBinding.Config
open Json Text

inductive Found where
  | null
  | bool (b : Bool)
  | number (n : Number)
  | string (s : String)
  | sequence
  | map
deriving DecidableEq, Repr

inductive Expected where
  | choice
  | request
  | readRequestMembers
  | namingPolicy
  | text
  | truthValue
  | nothing
  | columnCase
deriving DecidableEq, Repr

inductive Choice where
  | direction
  | columnCase
deriving DecidableEq, Repr

inductive ReadError where
  /-- The text is not JSON, or exceeds the limits. -/
  | malformed
  | missingField (key : String)
  | duplicateField (key : String)
  | unknownChoice (name : String) (choice : Choice)
  | wrongType (found : Found) (expected : Expected)
  /-- An object in place of a column case does not have exactly one member. -/
  | notOneMember
  /-- A request in array form has only so many values after the direction. -/
  | tooFewItems (count : Nat)
  /-- A request or policy in array form has so many values, more than four. -/
  | tooManyItems (count : Nat)
deriving DecidableEq, Repr

/-- The kind of a value, with the value itself where it is short. -/
def Found.ofValue : Value → Found
  | .null => .null
  | .bool b => .bool b
  | .number n => .number n
  | .string s => .string s
  | .array _ => .sequence
  | .object _ => .map

def Found.phrase : Found → String
  | .null => "null"
  | .bool true => "boolean `true`"
  | .bool false => "boolean `false`"
  | .number (.integer n) => "integer `" ++ (Number.integer n).text ++ "`"
  | .number x => "floating point `" ++ x.text ++ "`"
  | .string s => "string " ++ showText s
  | .sequence => "sequence"
  | .map => "map"

def Expected.phrase : Expected → String
  | .choice => "variant identifier"
  | .request => "internally tagged enum GenerationRequest"
  | .readRequestMembers => "struct variant GenerationRequest::ReaderToObject"
  | .namingPolicy => "struct ColumnNameSpec"
  | .text => "a string"
  | .truthValue => "a boolean"
  | .nothing => "unit"
  | .columnCase => "string or map"

def Choice.phrase : Choice → String
  | .direction => "`reader_to_object` or `object_to_writer`"
  | .columnCase => "one of `upper`, `lower`, `unchanged`"

/-- The sentence for a wrong shape; a text that is not JSON has none. -/
def ReadError.message? : ReadError → Option String
  | .malformed => none
  | .missingField key => some ("missing field `" ++ key ++ "`")
  | .duplicateField key => some ("duplicate field `" ++ key ++ "`")
  | .unknownChoice name choice =>
    some ("unknown variant `" ++ name ++ "`, expected " ++ choice.phrase)
  | .wrongType found expected =>
    some ("invalid type: " ++ found.phrase ++ ", expected " ++ expected.phrase)
  | .notOneMember => some "invalid value: map, expected map with a single key"
  | .tooFewItems count =>
    some ("invalid length " ++ count.repr
      ++ ", expected struct ObjectToWriterRequest with 4 elements")
  | .tooManyItems count =>
    some ("invalid length " ++ count.repr ++ ", expected 4 elements in sequence")

end RowBinding.Config
