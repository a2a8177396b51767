import RowBinding.TypeTable

/-!
# How types are read from a row

A rule says which accessor of the row fetches a value of the type, and how the fetched value is
turned into one. Types that the row knows under their own name need no rule beyond an entry.
-/
namespace RowBinding.Reading

structure ReadRule where
  /-- Wraps the accessor call. -/
  converter : Option (String → String) := none
  /-- Stands for the identifier in the name of the object's setter. -/
  setterSuffix : Option String := none
  /-- Stands for the type's name in the name of the accessor. -/
  accessorSuffix : Option String := none
  /-- Builds the whole accessor call from the column literal. -/
  accessorTemplate : Option (String → String) := none

namespace ReadRule

def plain : ReadRule := {}

def readAs (accessor : String) (convert : String → String) : ReadRule :=
  { converter := some convert, accessorSuffix := some accessor }

/-- The type is read by the accessor for objects, which is told the class. -/
def ofClass (className : String) : ReadRule :=
  { accessorTemplate := some fun column =>
      "getObject(" ++ column ++ ", " ++ className ++ ".class)" }

end ReadRule

/-- The rules for the types known without further registration. -/
def standardRules : TypeTable ReadRule :=
  .ofDistinct [
    ("boolean", .readAs "string" fun e => "Boolean.parseBoolean(" ++ e ++ ")"),
    ("Boolean", .readAs "string" fun e =>
      e ++ " == null ? null : Boolean.parseBoolean(" ++ e ++ ")"),
    ("char", .readAs "string" fun e => e ++ ".charAt(0)"),
    ("Character", .readAs "string" fun e => e ++ ".charAt(0)"),
    ("byte", .plain),
    ("Byte", .ofClass "Byte"),
    ("short", .plain),
    ("Short", .ofClass "Short"),
    ("int", .plain),
    ("Integer", .ofClass "Integer"),
    ("long", .plain),
    ("Long", .ofClass "Long"),
    ("float", .plain),
    ("Float", .ofClass "Float"),
    ("double", .plain),
    ("Double", .ofClass "Double"),
    ("String", .plain),
    ("BigDecimal", .plain),
    ("Date", { converter := some fun e => "(java.util.Date) " ++ e }),
    ("LocalDate", .readAs "date" fun e => e ++ ".toLocalDate()"),
    ("LocalTime", .readAs "time" fun e => e ++ ".toLocalTime()"),
    ("LocalDateTime", .readAs "timestamp" fun e => e ++ ".toLocalDateTime()"),
    ("StringBoolean", .readAs "string" fun e => "StringBoolean.fromValue(" ++ e ++ ")")] (by decide)

end RowBinding.Reading
