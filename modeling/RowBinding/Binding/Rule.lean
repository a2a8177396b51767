import RowBinding.TypeTable

/-!
# How types are bound as parameters

A rule says which getter of the object gives the value of a field, how the value is turned into
one that the statement takes, and by which setter the statement takes it.
-/
namespace RowBinding.Binding

structure BindRule where
  /-- Wraps the getter call. -/
  converter : Option (String → String) := none
  /-- How the name of the object's getter starts, when not with get. -/
  getterPrefix : Option String := none
  /-- Stands for the identifier in the name of the getter. -/
  getterSuffix : Option String := none
  /-- Stands for the type's name in the name of the statement's setter. -/
  accessorSuffix : Option String := none

namespace BindRule

def plain : BindRule := {}

def boundAs (accessor : String) : BindRule := { accessorSuffix := some accessor }

def converted (accessor : String) (convert : String → String) : BindRule :=
  { converter := some convert, accessorSuffix := some accessor }

/-- The type is a truth value, whose getter asks a question, and is bound as a string. -/
def truthValue (convert : String → String) : BindRule :=
  { converter := some convert, getterPrefix := some "is", accessorSuffix := some "string" }

end BindRule

def standardRules : TypeTable BindRule :=
  .ofDistinct [
    ("boolean", .truthValue fun e => "Boolean.toString(" ++ e ++ ")"),
    ("Boolean", .truthValue fun e => e ++ " == null ? null : Boolean.toString(" ++ e ++ ")"),
    ("char", .converted "string" fun e => "Character.toString(" ++ e ++ ")"),
    ("Character", .converted "string" fun e =>
      e ++ " == null ? null : Character.toString(" ++ e ++ ")"),
    ("byte", .plain),
    ("Byte", .boundAs "object"),
    ("short", .plain),
    ("Short", .boundAs "object"),
    ("int", .plain),
    ("Integer", .boundAs "object"),
    ("long", .plain),
    ("Long", .boundAs "object"),
    ("float", .plain),
    ("Float", .boundAs "object"),
    ("double", .plain),
    ("Double", .boundAs "object"),
    ("String", .plain),
    ("BigDecimal", .plain),
    ("Date", { converter := some fun e => "new java.sql.Date(" ++ e ++ ".getTime())" }),
    ("LocalDate", .boundAs "object"),
    ("LocalTime", .boundAs "object"),
    ("LocalDateTime", .boundAs "object"),
    ("StringBoolean", .converted "string" fun e => e ++ ".value()")] (by decide)

end RowBinding.Binding
