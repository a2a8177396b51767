import RowBinding.Column.Naming
import RowBinding.Text.Blank

/-!
# Requests

A request asks for the code of one direction: from a row to an object or from an object to a
statement. It holds the text of the declarations as it was given.
-/
namespace RowBinding
open Text

inductive Direction where
  | readerToObject
  | objectToWriter
deriving DecidableEq, Repr

namespace Direction

def word : Direction → String
  | readerToObject => "reader_to_object"
  | objectToWriter => "object_to_writer"

def ofWord? (w : String) : Option Direction := [readerToObject, objectToWriter].find? (·.word == w)

end Direction

structure ReadRequest where
  readerId : String
  objectId : String
  fieldsText : String
  naming : Option Column.NamingPolicy := none
deriving DecidableEq, Repr

structure BindRequest where
  writerId : String
  objectId : String
  fieldsText : String
  counterId : Option String := none
deriving DecidableEq, Repr

inductive Request where
  | read (request : ReadRequest)
  | bind (request : BindRequest)
deriving DecidableEq, Repr

/-- A counter's name without the blanks around it; a blank name is no counter. -/
def counterName (counterId : Option String) : Option String :=
  (counterId.map fun id => String.ofList (trimBlank id.toList)).filter (· != "")

def BindRequest.counter (r : BindRequest) : Option String := counterName r.counterId

namespace Request

def direction : Request → Direction
  | .read _ => .readerToObject
  | .bind _ => .objectToWriter

/-- The name of the row or statement variable. -/
def targetId : Request → String
  | .read r => r.readerId
  | .bind r => r.writerId

def objectId : Request → String
  | .read r => r.objectId
  | .bind r => r.objectId

def fieldsText : Request → String
  | .read r => r.fieldsText
  | .bind r => r.fieldsText

end Request

end RowBinding
