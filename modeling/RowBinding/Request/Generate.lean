import RowBinding.Binding.Statement
import RowBinding.Declaration.Parser
import RowBinding.Reading.Statement
import RowBinding.Request.Failure

/-!
# Code for requests

A request is checked for blank parts before its declarations are read. Either all of the code
is generated or none.
-/
namespace RowBinding
open Declaration Text

def BindRequest.parameterWriter (r : BindRequest) : Binding.ParameterWriter where
  writer := r.writerId
  object := r.objectId
  counter := r.counter

def ReadRequest.rowReader (r : ReadRequest) : Reading.RowReader where
  reader := r.readerId
  object := r.objectId
  naming := r.naming.getD {}

/-- The code that reads a row into an object; nothing is checked but the declarations. -/
def ReadRequest.code (r : ReadRequest) : Except Fault String :=
  (parseRetained r.fieldsText).map fun fields => joinLines (r.rowReader.lines fields)

/-- The code that binds an object's fields; nothing is checked but the declarations. -/
def BindRequest.code (r : BindRequest) : Except Fault String :=
  (parseRetained r.fieldsText).map fun fields => joinLines (r.parameterWriter.lines fields)

namespace Request

def blankPart? (r : Request) : Option RequiredPart :=
  if IsBlankText r.targetId then some (.target r.direction)
  else if IsBlankText r.objectId then some .object
  else if IsBlankText r.fieldsText then some .fields
  else none

def code : Request → Except Fault String
  | .read r => r.code
  | .bind r => r.code

/-- The code of a request without blank parts. -/
def generate (r : Request) : Except Failure String :=
  match r.blankPart? with
  | some part => .error (.blank part)
  | none => r.code.mapError .declaration

end Request

end RowBinding
