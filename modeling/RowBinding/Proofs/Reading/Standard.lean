import RowBinding.Proofs.Text.Wrapping
import RowBinding.Proofs.TypeTable
import RowBinding.Reading.Statement

/-!
# The standard rules for reading

What the rules of the standard table put around a column literal and around the accessor call, as
fixed texts for each type. With them, the lines of a field can be written out: one statement for a
type in the table, two comments for any other.
-/
namespace RowBinding.Reading
open Declaration Letter Text

/-- What stands around the accessor call in the expression that is given to the setter. -/
def readWrapping : String → Wrapping
  | "boolean" => ⟨"Boolean.parseBoolean(", ")", []⟩
  | "Boolean" => ⟨"", " == null ? null : Boolean.parseBoolean(", [")"]⟩
  | "char" | "Character" => ⟨"", ".charAt(0)", []⟩
  | "Date" => ⟨"(java.util.Date) ", "", []⟩
  | "LocalDate" => ⟨"", ".toLocalDate()", []⟩
  | "LocalTime" => ⟨"", ".toLocalTime()", []⟩
  | "LocalDateTime" => ⟨"", ".toLocalDateTime()", []⟩
  | "StringBoolean" => ⟨"StringBoolean.fromValue(", ")", []⟩
  | _ => .bare

/-- An accessor of the row that is told the column alone. -/
def accessorWrapping (kind : String) : Wrapping := ⟨"get" ++ capitalize kind ++ "(", ")", []⟩

/-- The accessor for objects, which is told the class as well. -/
def classWrapping (className : String) : Wrapping :=
  ⟨"getObject(", ", " ++ className ++ ".class)", []⟩

def boxedNumbers : List String := ["Byte", "Short", "Integer", "Long", "Float", "Double"]

/-- What stands around the column literal in the accessor call. -/
def columnWrapping : String → Wrapping
  | "boolean" | "Boolean" | "char" | "Character" | "StringBoolean" => accessorWrapping "string"
  | "LocalDate" => accessorWrapping "date"
  | "LocalTime" => accessorWrapping "time"
  | "LocalDateTime" => accessorWrapping "timestamp"
  | typeName =>
    if typeName ∈ boxedNumbers then classWrapping typeName else accessorWrapping typeName

theorem convert_eq_fill :
    ∀ e ∈ standardRules.entries, ∀ s, e.2.convert s = (readWrapping e.1).fill s := by
  simp [standardRules, ReadRule.convert, ReadRule.readAs, ReadRule.plain, ReadRule.ofClass,
    readWrapping, Wrapping.fill, Wrapping.bare]

theorem accessor_ofClass (className typeName column : String) :
    (ReadRule.ofClass className).accessor typeName column =
      (classWrapping className).fill column := by
  simp [ReadRule.accessor, ReadRule.ofClass, classWrapping, Wrapping.fill, String.append_assoc]

theorem accessor_of_no_template (converter : Option (String → String)) (setter kind : Option String)
    (typeName column : String) : ReadRule.accessor ⟨converter, setter, kind, none⟩ typeName column =
      (accessorWrapping (kind.getD typeName)).fill column := rfl

theorem accessor_eq_fill :
    ∀ e ∈ standardRules.entries, ∀ s, e.2.accessor e.1 s = (columnWrapping e.1).fill s := by
  simp [standardRules, accessor_ofClass, accessor_of_no_template, ReadRule.readAs, ReadRule.plain,
    columnWrapping, boxedNumbers]

theorem setterSuffix_eq_none : ∀ e ∈ standardRules.entries, e.2.setterSuffix = none := by
  simp [standardRules, ReadRule.readAs, ReadRule.plain, ReadRule.ofClass]

theorem object_setterName (object suffix : String) :
    object ++ "." ++ setterName suffix = object ++ ".set" ++ capitalize suffix := by
  have hset : ".set" = "." ++ "set" := by decide
  rw [hset, setterName]
  simp only [String.append_assoc]

namespace RowReader
variable {r : RowReader} {f : Field}

theorem group_of_known (ht : r.table = standardRules) (h : f.declaredType ∈ standardRules.names) :
    r.group f = [r.object ++ ".set" ++ capitalize f.identifier ++ "(" ++
      (readWrapping f.declaredType).fill (r.reader ++ "." ++
        (columnWrapping f.declaredType).fill (r.naming.columnLiteral f.identifier)) ++ ");"] := by
  obtain ⟨rule, hrule⟩ := TypeTable.exists_lookup h
  have hmem := TypeTable.mem_entries_of_lookup hrule
  have hsuffix : rule.setterSuffix = none := setterSuffix_eq_none _ hmem
  rw [group, ht, TypeTable.resolve_of_lookup hrule]
  simp only [statement, hsuffix, Option.getD_none, object_setterName, convert_eq_fill _ hmem,
    accessor_eq_fill _ hmem]

theorem group_of_unknown (ht : r.table = standardRules) (hu : r.handleUnknown = true)
    (h : f.declaredType ∉ standardRules.names) :
    r.group f = ["//" ++ f.declaredType ++ " " ++ f.identifier ++ ";",
      "//" ++ r.object ++ ".set" ++ capitalize f.identifier ++ "(" ++ f.identifier ++ ");"] := by
  rw [group, ht, hu, TypeTable.resolve_of_not_mem h]
  simp only [placeholder, object_setterName]

end RowReader

end RowBinding.Reading
