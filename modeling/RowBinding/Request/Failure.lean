import RowBinding.Config.Error
import RowBinding.Declaration.Message
import RowBinding.Request.Basic

/-!
# Why a request gives no code
-/
namespace RowBinding

inductive RequiredPart where
  | target (direction : Direction)
  | object
  | fields
deriving DecidableEq, Repr

def RequiredPart.message : RequiredPart → String
  | .target .readerToObject => "ResultSet identifier is required."
  | .target .objectToWriter => "PreparedStatement identifier is required."
  | .object => "Object identifier is required."
  | .fields => "Class fields are required."

inductive Failure where
  /-- The request itself could not be read. -/
  | config (cause : Config.ReadError)
  | blank (part : RequiredPart)
  | declaration (cause : Declaration.Fault)
deriving DecidableEq, Repr

/-- The sentence for a failure. Where a text cannot be read as JSON, neither the place nor what is
wrong with its grammar is said. -/
def Failure.message : Failure → String
  | .config cause => "Invalid JSON input" ++ (cause.message?.map (": " ++ ·)).getD ""
  | .blank part => part.message
  | .declaration cause => cause.message

end RowBinding
