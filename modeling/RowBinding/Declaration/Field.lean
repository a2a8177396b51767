/-!
# Fields and faulty declarations

A field is one declared member of a class. A statement that declares none is faulty in one of
four ways; every fault carries the statement it was found in.
-/
namespace RowBinding.Declaration

structure Field where
  identifier : String
  declaredType : String
  isStatic : Bool
  isTransient : Bool
deriving DecidableEq, Repr

/-- Static and transient members take no part in row mapping. -/
def Field.isRetained (f : Field) : Bool := !f.isStatic && !f.isTransient

/-- Why a block of declarations is refused. -/
inductive Fault where
  | missingTokens (statement : String)
  | invalidFieldName (identifier statement : String)
  | invalidTypeName (typeName statement : String)
  | duplicateField (identifier statement : String)
deriving DecidableEq, Repr

end RowBinding.Declaration
