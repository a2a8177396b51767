import RowBinding.Proofs.Binding.Numbering
import RowBinding.Proofs.Text.Wrapping
import RowBinding.Proofs.TypeTable

/-!
# The standard rules for binding

The value bound for a field is a fixed text, chosen by the field's type, around calls of one getter
of the object. A type without a rule has its text too, so this holds of every field.
-/
namespace RowBinding.Binding
open Declaration Letter Text

/-- What stands around the getter calls in the value of a type. -/
def valueWrapping : String → Wrapping
  | "boolean" => ⟨"Boolean.toString(", ")", []⟩
  | "Boolean" => ⟨"", " == null ? null : Boolean.toString(", [")"]⟩
  | "char" => ⟨"Character.toString(", ")", []⟩
  | "Character" => ⟨"", " == null ? null : Character.toString(", [")"]⟩
  | "Date" => ⟨"new java.sql.Date(", ".getTime())", []⟩
  | "StringBoolean" => ⟨"", ".value()", []⟩
  | typeName =>
    if typeName ∈ standardRules.names then .bare else ⟨"(", " == null ? null : ", [".toString())"]⟩

/-- Truth values are asked for, other values are got. -/
def getterStart (typeName : String) : String :=
  if typeName = "boolean" ∨ typeName = "Boolean" then "is" else "get"

def setterOf (typeName : String) : String :=
  match standardRules.lookup typeName with
  | some rule => capitalize (rule.accessorSuffix.getD typeName)
  | none => "String"

theorem convert_eq_fill :
    ∀ e ∈ standardRules.entries, ∀ s, e.2.convert s = (valueWrapping e.1).fill s := by
  simp [standardRules, BindRule.convert, BindRule.truthValue, BindRule.converted, BindRule.boundAs,
    BindRule.plain, valueWrapping, Wrapping.fill, Wrapping.bare, TypeTable.names]

theorem getter_of_mem : ∀ e ∈ standardRules.entries,
    e.2.getterPrefix.getD "get" = getterStart e.1 ∧ e.2.getterSuffix = none := by
  simp [standardRules, BindRule.truthValue, BindRule.converted, BindRule.boundAs, BindRule.plain,
    getterStart]

theorem valueWrapping_of_not_mem {typeName : String} (h : typeName ∉ standardRules.names) :
    valueWrapping typeName = ⟨"(", " == null ? null : ", [".toString())"]⟩ := by
  unfold valueWrapping
  split
  case h_7 => exact if_neg h
  all_goals exact absurd (by decide) h

theorem parameterOf_standardRules (object : String) (f : Field) :
    parameterOf standardRules object f =
      ⟨"set" ++ setterOf f.declaredType, (valueWrapping f.declaredType).fill
        (object ++ "." ++ getterStart f.declaredType ++ capitalize f.identifier ++ "()")⟩ := by
  have hcall (start : String) : object ++ "." ++ start ++ capitalize f.identifier ++ "()" =
      getterCall object (getterName start f.identifier) := by
    simp only [getterCall, getterName, String.append_assoc]
  rw [hcall]
  cases hrule : standardRules.lookup f.declaredType with
  | some rule =>
    have hmem := TypeTable.mem_entries_of_lookup hrule
    obtain ⟨hstart, hsuffix⟩ := getter_of_mem _ hmem
    have hstart : rule.getterPrefix.getD "get" = getterStart f.declaredType := hstart
    have hsuffix : rule.getterSuffix = none := hsuffix
    simp only [parameterOf, setterOf, hrule, BindRule.parameter, hstart, hsuffix, Option.getD_none,
      convert_eq_fill _ hmem]
  | none =>
    have hmem := TypeTable.lookup_eq_none_iff.1 hrule
    have hstart : getterStart f.declaredType = "get" := by
      refine if_neg ?_
      rintro (he | he)
      all_goals
        rw [he] at hmem
        exact absurd (by decide) hmem
    have hset : "setString" = "set" ++ "String" := by decide
    simp only [parameterOf, setterOf, hrule, textParameter, hstart, valueWrapping_of_not_mem hmem,
      hset]
    rfl

/-- The statement that binds a field of the object at an index. -/
def bindingText (writer index object : String) (f : Field) : String :=
  writer ++ ".set" ++ setterOf f.declaredType ++ "(" ++ index ++ ", " ++
    (valueWrapping f.declaredType).fill
      (object ++ "." ++ getterStart f.declaredType ++ capitalize f.identifier ++ "()") ++ ");"

namespace ParameterWriter
variable {w : ParameterWriter}

theorem statement_parameterOf (ht : w.table = standardRules) (k : Nat) (f : Field) :
    w.statement k (parameterOf w.table w.object f) =
      bindingText w.writer (indexText w.counter k) w.object f := by
  have hset : ".set" = "." ++ "set" := by decide
  rw [ht, parameterOf_standardRules, statement, bindingText, hset]
  simp only [String.append_assoc]

theorem lines_eq_bindingText (ht : w.table = standardRules) (hu : w.handleUnknown = true)
    (fs : List Field) : w.lines fs = w.header ++
      fs.mapIdx fun i f => bindingText w.writer (indexText w.counter (i + 1)) w.object f := by
  rw [w.lines_eq_mapIdx hu, List.append_cancel_left_eq, List.mapIdx_eq_iff]
  intro i
  simp only [List.getElem?_mapIdx, List.getElem?_map, Option.map_map, Function.comp_def,
    statement_parameterOf ht, Nat.add_comm 1]

end ParameterWriter

end RowBinding.Binding

namespace RowBinding.BindRequest
open Binding Declaration

/-- The statements for some fields, in order. -/
def bindingTexts (r : BindRequest) (fs : List Field) : List String :=
  fs.mapIdx fun i f => bindingText r.writerId (indexText r.counter (i + 1)) r.objectId f

theorem lines_eq (r : BindRequest) (fs : List Field) : r.parameterWriter.lines fs =
    match r.counter with
    | some c => ("int " ++ c ++ " = 1;") :: r.bindingTexts fs
    | none => r.bindingTexts fs := by
  have hcounter : r.parameterWriter.counter = r.counter := rfl
  rw [ParameterWriter.lines_eq_bindingText rfl rfl, ParameterWriter.header, hcounter]
  cases hc : r.counter with
  | some c =>
    rw [bindingTexts, hc]
    rfl
  | none =>
    rw [bindingTexts, hc]
    rfl

end RowBinding.BindRequest
