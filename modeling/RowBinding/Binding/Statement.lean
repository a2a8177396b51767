import RowBinding.Binding.Rule
import RowBinding.Declaration.Field
import RowBinding.Letter.Case

/-!
# Statements that bind an object's fields as parameters

Each field that is not dropped gives one binding: a setter of the statement and a value. The
binding does not depend on its position. Positions are written as the literals 1, 2, 3, … or,
when there is a counter, by incrementing it; the counter is declared in the first line.
-/
namespace RowBinding.Binding
open Declaration Letter

structure Parameter where
  setter : String
  value : String
deriving DecidableEq, Repr

structure ParameterWriter where
  writer : String
  object : String
  counter : Option String := none
  table : TypeTable BindRule := standardRules
  handleUnknown : Bool := true

/-- The name of the object's getter for an identifier or for what replaces it. -/
def getterName (start suffix : String) : String := start ++ capitalize suffix

def getterCall (object getter : String) : String := object ++ "." ++ getter ++ "()"

def BindRule.convert (rule : BindRule) (read : String) : String :=
  match rule.converter with
  | some convert => convert read
  | none => read

def BindRule.parameter (rule : BindRule) (typeName object identifier : String) : Parameter where
  setter := "set" ++ capitalize (rule.accessorSuffix.getD typeName)
  value := rule.convert <| getterCall object <|
    getterName (rule.getterPrefix.getD "get") (rule.getterSuffix.getD identifier)

/-- The binding of a field whose type has no rule: its text, or null. -/
def textParameter (object identifier : String) : Parameter where
  setter := "setString"
  value :=
    let read := getterCall object (getterName "get" identifier)
    "(" ++ read ++ " == null ? null : " ++ read ++ ".toString())"

def indexText (counter : Option String) (k : Nat) : String :=
  match counter with
  | some c => c ++ "++"
  | none => k.repr

namespace ParameterWriter

def parameter? (w : ParameterWriter) (f : Field) : Option Parameter :=
  (w.table.resolve f.declaredType w.handleUnknown).map fun
    | .known typeName rule => rule.parameter typeName w.object f.identifier
    | .unknown _ => textParameter w.object f.identifier

def statement (w : ParameterWriter) (k : Nat) (p : Parameter) : String :=
  w.writer ++ "." ++ p.setter ++ "(" ++ indexText w.counter k ++ ", " ++ p.value ++ ");"

/-- The statements for parameters at the positions `k`, `k + 1`, and so on. -/
def statementsFrom (w : ParameterWriter) (k : Nat) : List Parameter → List String
  | [] => []
  | p :: ps => w.statement k p :: w.statementsFrom (k + 1) ps

def header (w : ParameterWriter) : List String :=
  match w.counter with
  | some c => ["int " ++ c ++ " = 1;"]
  | none => []

def lines (w : ParameterWriter) (fields : List Field) : List String :=
  w.header ++ w.statementsFrom 1 (fields.filterMap w.parameter?)

end ParameterWriter

end RowBinding.Binding
